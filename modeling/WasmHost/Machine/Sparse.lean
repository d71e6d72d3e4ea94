import WasmHost.Numeric.PowerOfTwo

/-!
# Sparse rows

A row of values, one for each natural number, in which long stretches are equal. A row is a value
for all that lies far out and a block for the front. A block is uniform, or it is made of two
halves, and the smallest blocks hold their values one by one. Filling a long stretch therefore takes
no more room than its two ends do, and so does copying one.

The bits of a place tell the way to its value: the low ones choose a value of a smallest block, and
each bit above chooses a half.
-/

namespace WasmHost

/-- How many bits of a place choose a value of a smallest block. -/
def chunkBits : Nat := 10

/-- How many values the smallest blocks hold. -/
def chunkSize : Nat := powerOfTwo chunkBits

/-- A block of a height. A block of height zero holds the values of a chunk, and each height above
holds twice as many. -/
inductive Block (α : Type) : Nat → Type
  | uniform {height : Nat} (value : α) : Block α height
  | chunk (values : Vector α chunkSize) : Block α 0
  | halves {height : Nat} (low high : Block α height) : Block α (height + 1)

/-- A row of values: those of a block, and one value for all places after it. -/
structure Sparse (α : Type) where
  rest : α
  height : Nat := 0
  block : Block α height := .uniform rest

namespace Block

variable {α : Type}

/-- How many values a block of the given height holds. -/
def span (height : Nat) : Nat :=
  powerOfTwo (height + chunkBits)

/-- Whether a place lies in the upper one of two halves of the given height. -/
def isUpper (height i : Nat) : Bool :=
  i.testBit (height + chunkBits)

def get : {height : Nat} → Block α height → Nat → α
  | _, uniform value, _ => value
  | _, chunk values, i => values.get ⟨i % chunkSize, Nat.mod_lt _ (by decide)⟩
  | height + 1, halves low high, i => if isUpper height i then high.get i else low.get i

def set : {height : Nat} → Block α height → Nat → α → Block α height
  | 0, uniform old, i, value =>
    chunk ((Vector.replicate chunkSize old).setIfInBounds (i % chunkSize) value)
  | 0, chunk values, i, value => chunk (values.setIfInBounds (i % chunkSize) value)
  | height + 1, uniform old, i, value =>
    if isUpper height i then halves (uniform old) (set (uniform old) i value)
    else halves (set (uniform old) i value) (uniform old)
  | height + 1, halves low high, i, value =>
    if isUpper height i then halves low (high.set i value)
    else halves (low.set i value) high

/-- Sets `n` values of a chunk from a place on. -/
def fillChunk (values : Vector α chunkSize) (first : Nat) : (n : Nat) → α → Vector α chunkSize
  | 0, _ => values
  | n + 1, value => fillChunk (values.setIfInBounds first value) (first + 1) n value

variable [DecidableEq α]

/-- A chunk, which is uniform if all its values are the given one. -/
def ofChunk (values : Vector α chunkSize) (value : α) : Block α 0 :=
  if values.all (· = value) then uniform value else chunk values

/-- Two halves, which are uniform together if both are so alike. -/
def join {height : Nat} : Block α height → Block α height → Block α (height + 1)
  | uniform low, uniform high =>
    if low = high then uniform low else halves (uniform low) (uniform high)
  | low, high => halves low high

/-- Sets the values from the place `first` on and before the place `last`. -/
def fill : {height : Nat} → Block α height → (first last : Nat) → α → Block α height
  | 0, block, first, last, value =>
    if last ≤ first then block
    else
      let n := min last chunkSize - first
      match block with
      | uniform old => ofChunk (fillChunk (Vector.replicate chunkSize old) first n value) value
      | chunk values => ofChunk (fillChunk values first n value) value
  | height + 1, block, first, last, value =>
    let half := span height
    if last ≤ first then block
    else if first = 0 ∧ 2 * half ≤ last then uniform value
    else
      match block with
      | uniform old =>
        if old = value then uniform old
        else
          join (fill (uniform old) first (min last half) value)
            (fill (uniform old) (first - half) (last - half) value)
      | halves low high =>
        join (low.fill first (min last half) value) (high.fill (first - half) (last - half) value)

end Block

namespace Sparse

open Block

variable {α : Type}

/-- Whether a place lies within the block. -/
def holds (row : Sparse α) (i : Nat) : Bool :=
  i >>> (row.height + chunkBits) = 0

def get (row : Sparse α) (i : Nat) : α :=
  if row.holds i then row.block.get i else row.rest

/-- Makes the block higher. -/
def raise : (heights : Nat) → Sparse α → Sparse α
  | 0, row => row
  | heights + 1, ⟨rest, height, block⟩ =>
    raise heights ⟨rest, height + 1, .halves block (.uniform rest)⟩

/-- Makes the block so high that it holds a place. -/
def cover (row : Sparse α) (i : Nat) : Sparse α :=
  if row.holds i then row
  else row.raise (i.log2 + 1 - (row.height + chunkBits))

def set (row : Sparse α) (i : Nat) (value : α) : Sparse α :=
  match row.cover i with
  | ⟨rest, height, block⟩ => ⟨rest, height, block.set i value⟩

/-- Sets `n` values from a place on, the `i`-th one to `value i`. -/
def write (row : Sparse α) (first n : Nat) (value : Nat → α) : Sparse α :=
  go row 0 n
where
  /-- Sets the values from the `i`-th one on, `left` of them. -/
  go (row : Sparse α) (i : Nat) : (left : Nat) → Sparse α
    | 0 => row
    | left + 1 => go (row.set (first + i) (value i)) (i + 1) left

variable [DecidableEq α]

/-- Sets `n` values from a place on to one value. -/
def fill (row : Sparse α) (first : Nat) : (n : Nat) → α → Sparse α
  | 0, _ => row
  | n + 1, value =>
    match row.cover (first + n) with
    | ⟨rest, height, block⟩ => ⟨rest, height, block.fill first (first + n + 1) value⟩

/-- Copies the values of a block from the place `first` on and before the place `last`. -/
def copyBlock : {height : Nat} → Block α height → (first last target : Nat) → Sparse α → Sparse α
  | _, .uniform value, first, last, target, row => row.fill target (last - first) value
  | _, .chunk values, first, last, target, row =>
    row.write target (last - first) fun i => (Block.chunk values).get (first + i)
  | height + 1, .halves low high, first, last, target, row =>
    if last ≤ first then row
    else
      let half := span height
      copyBlock high (first - half) (last - half) (target + (half - first))
        (copyBlock low first (min last half) target row)

/-- Copies `n` values of another row, or of the same one as it was, from the place `first` there to
the place `target` here. -/
def copy (row source : Sparse α) (first n target : Nat) : Sparse α :=
  let last := min (first + n) (span source.height)
  let inner := last - first
  (copyBlock source.block first last target row).fill (target + inner) (n - inner) source.rest

end Sparse

end WasmHost
