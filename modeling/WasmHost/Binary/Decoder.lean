import WasmHost.Numeric.PowerOfTwo
import WasmHost.Types

/-!
# Reading the binary format

A decoder takes bytes off the front of a list and fails without saying why: a module that is not
well formed is refused as a whole. Integers are written in groups of seven bits, low groups first; a
group beyond the width of the integer, or bits in the last group that the width has no room for, are
refused, while leading groups that add nothing are accepted.
-/

namespace WasmHost

/-- A reader of the front of a list of bytes. -/
abbrev Decoder (α : Type) := StateT (List UInt8) Option α

namespace Decoder

def byte : Decoder UInt8
  | [] => none
  | b :: rest => some (b, rest)

/-- The next byte, which stays where it is. -/
def peek : Decoder UInt8
  | [] => none
  | b :: rest => some (b, b :: rest)

/-- Accepts only the given byte. -/
def expect (expected : UInt8) : Decoder Unit := do
  guard ((← byte) = expected)

/-- The next `n` bytes. -/
def take (n : Nat) : Decoder (List UInt8) := fun bytes =>
  let front := bytes.take n
  if front.length = n then some (front, bytes.drop n) else none

/-- Runs a decoder on exactly the given bytes, all of which it has to use. -/
def runOn {α : Type} (decoder : Decoder α) (bytes : List UInt8) : Option α :=
  match decoder bytes with
  | some (a, []) => some a
  | _ => none

/-- Runs a decoder on the next `n` bytes, all of which it has to use. -/
def within {α : Type} (n : Nat) (decoder : Decoder α) : Decoder α := do
  match decoder.runOn (← take n) with
  | some a => pure a
  | none => failure

/-- Groups of seven bits for an unsigned integer of `bits` bits, at most `groups` of them. -/
def unsignedGroups : (groups bits : Nat) → Decoder Nat
  | 0, _ => failure
  | groups + 1, bits => do
    let b ← byte
    let low := b.toNat % 128
    if b < 128 then
      guard (low < powerOfTwo bits)
      pure low
    else
      let high ← unsignedGroups groups (bits - 7)
      pure (low + 128 * high)

/-- Groups of seven bits for a signed integer of `bits` bits, at most `groups` of them. The highest
bit of the last group is the sign. -/
def signedGroups : (groups bits : Nat) → Decoder Int
  | 0, _ => failure
  | groups + 1, bits => do
    let b ← byte
    let low := b.toNat % 128
    if b < 128 then
      let value : Int := if low < 64 then low else low - 128
      let bound : Int := powerOfTwo (bits - 1)
      guard (-bound ≤ value ∧ value < bound)
      pure value
    else
      let high ← signedGroups groups (bits - 7)
      pure (low + 128 * high)

def unsigned (bits : Nat) : Decoder Nat :=
  unsignedGroups ((bits + 6) / 7) bits

def signed (bits : Nat) : Decoder Int :=
  signedGroups ((bits + 6) / 7) bits

/-- An unsigned 32-bit integer: an index, a count or a length. -/
def u32 : Decoder Nat :=
  unsigned 32

/-- The number whose bytes are given, low byte first. -/
def littleEndian : List UInt8 → Nat
  | [] => 0
  | b :: rest => b.toNat + 256 * littleEndian rest

/-- An unsigned integer of `n` bytes, low byte first. -/
def fixed (n : Nat) : Decoder Nat :=
  littleEndian <$> take n

def replicate {α : Type} (n : Nat) (decoder : Decoder α) : Decoder (List α) :=
  List.reverse <$> go n []
where
  /-- The items read so far come last one first. -/
  go : Nat → List α → Decoder (List α)
    | 0, items => pure items
    | n + 1, items => do go n ((← decoder) :: items)

/-- A count of at most `limit`, then that many items. -/
def vector {α : Type} (limit : Nat) (decoder : Decoder α) : Decoder (List α) := do
  let n ← u32
  guard (n ≤ limit)
  replicate n decoder

/-- A name: a length of at most 100,000 and that many bytes of UTF-8. -/
def name : Decoder String := do
  let n ← u32
  guard (n ≤ 100000)
  match String.fromUTF8? ⟨(← take n).toArray⟩ with
  | some text => pure text
  | none => failure

/-- What a reference points at. -/
def heapType : Decoder HeapType := do
  match ← byte with
  | 0x70 => pure .func
  | 0x6F => pure .external
  | _ => failure

/-- A value type. References are nullable, in the short spelling or in the long one. -/
def valType : Decoder ValType := do
  match ← byte with
  | 0x7F => pure .i32
  | 0x7E => pure .i64
  | 0x7D => pure .f32
  | 0x7C => pure .f64
  | 0x7B => pure .v128
  | 0x70 => pure .funcref
  | 0x6F => pure .externref
  | 0x63 => ValType.ref true <$> heapType
  | _ => failure

/-- A value type that is a reference. -/
def refType : Decoder ValType := do
  let type ← valType
  guard type.isRef
  pure type

/-- The start of a function type. It may be spelled out that the type is final and has no
supertypes. -/
def funcTypeStart : Decoder Unit := do
  match ← byte with
  | 0x60 => pure ()
  | 0x4F => do
    guard ((← u32) = 0)
    expect 0x60
  | _ => failure

/-- A function type, with at most a thousand parameters and a thousand results. -/
def funcType : Decoder FuncType := do
  funcTypeStart
  let params ← vector 1000 valType
  let results ← vector 1000 valType
  pure ⟨params, results⟩

/-- A least size and, if the flag says so, a greatest one, of the width of the index type. -/
def sizes (index : IndexType) (bounded : Bool) : Decoder (Nat × Option Nat) := do
  let size := match index with
    | .i32 => unsigned 32
    | .i64 => unsigned 64
  let minimum ← size
  let maximum ← if bounded then some <$> size else pure none
  pure (minimum, maximum)

/-- The index type that the third flag bit stands for. -/
def indexType (flags : UInt8) : IndexType :=
  if flags &&& 4 = 0 then .i32 else .i64

def memoryType : Decoder MemoryType := do
  let flags ← byte
  guard (flags < 8)
  let index := indexType flags
  let (minimum, maximum) ← sizes index (flags &&& 1 ≠ 0)
  pure { index, shared := flags &&& 2 ≠ 0, minimum, maximum }

/-- A table type. Tables are never shared. -/
def tableType : Decoder TableType := do
  let element ← refType
  let flags ← byte
  guard (flags < 8 ∧ flags &&& 2 = 0)
  let index := indexType flags
  let (minimum, maximum) ← sizes index (flags &&& 1 ≠ 0)
  pure { element, index, minimum, maximum }

def globalType : Decoder GlobalType := do
  let type ← valType
  let flag ← byte
  guard (flag < 2)
  pure ⟨type, flag = 1⟩

end Decoder

end WasmHost
