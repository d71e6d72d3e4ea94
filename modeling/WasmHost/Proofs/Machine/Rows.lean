import Mathlib
import WasmHost.Machine.Sparse

/-!
# What all values of a row have in common

A property that all values of a row have is kept when values that have it are written, filled in or
copied from another such row. It is said of the blocks that a row is made of, so that each operation
keeps it for the reason that it puts blocks together from parts of old ones and from new values.
-/

namespace WasmHost

variable {α : Type} {holds : α → Prop}

namespace Block

/-- All values of the block have the property. -/
def All (holds : α → Prop) : {height : Nat} → Block α height → Prop
  | _, uniform value => holds value
  | _, chunk values => ∀ value ∈ values, holds value
  | _, halves low high => low.All holds ∧ high.All holds

namespace All

variable {height : Nat} {block low high : Block α height} {value : α}

theorem get (all : block.All holds) (i : Nat) : holds (block.get i) := by
  induction block with
  | uniform value => exact all
  | chunk values => exact all _ (by simp [Block.get, Vector.get_eq_getElem])
  | halves low high ihLow ihHigh =>
      simp only [Block.get]
      split
      · exact ihHigh all.2
      · exact ihLow all.1

/-- A chunk in which one value is replaced. -/
theorem setIfInBounds {values : Vector α chunkSize} (all : ∀ old ∈ values, holds old)
    (new : holds value) (i : Nat) : ∀ old ∈ values.setIfInBounds i value, holds old := by
  intro old old_mem
  rcases Vector.mem_iff_getElem.mp old_mem with ⟨place, inside, rfl⟩
  rw [Vector.getElem_setIfInBounds inside]
  split
  · exact new
  · exact all _ (Vector.getElem_mem inside)

theorem replicate (new : holds value) : ∀ old ∈ Vector.replicate chunkSize value, holds old := by
  intro old old_mem
  rw [(Vector.mem_replicate.mp old_mem).2]
  exact new

theorem set (all : block.All holds) (new : holds value) (i : Nat) :
    (block.set i value).All holds := by
  induction height with
  | zero =>
      cases block with
      | uniform old =>
          have kept : holds old := all
          exact setIfInBounds (replicate kept) new _
      | chunk values => exact setIfInBounds all new _
  | succ height ih =>
      cases block with
      | uniform old =>
          have inner : ((uniform old : Block α height).set i value).All holds := ih all
          simp only [Block.set]
          split
          · exact ⟨all, inner⟩
          · exact ⟨inner, all⟩
      | halves low high =>
          simp only [Block.set]
          split
          · exact ⟨all.1, ih all.2⟩
          · exact ⟨ih all.1, all.2⟩

theorem fillChunk {values : Vector α chunkSize} (all : ∀ old ∈ values, holds old)
    (new : holds value) (first n : Nat) : ∀ old ∈ fillChunk values first n value, holds old := by
  induction n generalizing values first with
  | zero => exact all
  | succ n ih => exact ih (setIfInBounds all new first) (first + 1)

variable [DecidableEq α]

theorem ofChunk {values : Vector α chunkSize} (all : ∀ old ∈ values, holds old)
    (new : holds value) : (ofChunk values value).All holds := by
  simp only [Block.ofChunk]
  split
  · exact new
  · exact all

theorem join (allLow : low.All holds) (allHigh : high.All holds) : (join low high).All holds := by
  cases low <;> cases high <;> simp only [Block.join]
  case uniform.uniform =>
      split
      · exact allLow
      · exact ⟨allLow, allHigh⟩
  all_goals exact ⟨allLow, allHigh⟩

theorem fill (all : block.All holds) (new : holds value) (first last : Nat) :
    (block.fill first last value).All holds := by
  induction height generalizing first last with
  | zero =>
      simp only [Block.fill]
      split
      · exact all
      · cases block with
        | uniform old =>
            have kept : holds old := all
            exact ofChunk (fillChunk (replicate kept) new _ _) new
        | chunk values => exact ofChunk (fillChunk all new _ _) new
  | succ height ih =>
      simp only [Block.fill]
      split
      · exact all
      · split
        · exact new
        · cases block with
          | uniform old =>
              have inner : (uniform old : Block α height).All holds := all
              simp only
              split
              · exact all
              · exact join (ih inner _ _) (ih inner _ _)
          | halves low high => exact join (ih all.1 _ _) (ih all.2 _ _)

end All

end Block

namespace Sparse

/-- All values of the row have the property. -/
structure All (holds : α → Prop) (row : Sparse α) : Prop where
  rest : holds row.rest
  block : row.block.All holds

namespace All

variable {row source : Sparse α} {value : α}

theorem get (all : row.All holds) (i : Nat) : holds (row.get i) := by
  simp only [Sparse.get]
  split
  · exact all.block.get i
  · exact all.rest

/-- A row that was never written has one value. -/
theorem of_rest (new : holds value) : ({ rest := value } : Sparse α).All holds :=
  ⟨new, new⟩

theorem raise (all : row.All holds) (heights : Nat) : (row.raise heights).All holds := by
  induction heights generalizing row with
  | zero => exact all
  | succ heights ih =>
      apply ih
      exact ⟨all.rest, all.block, all.rest⟩

theorem cover (all : row.All holds) (i : Nat) : (row.cover i).All holds := by
  simp only [Sparse.cover]
  split
  · exact all
  · exact all.raise _

theorem set (all : row.All holds) (new : holds value) (i : Nat) : (row.set i value).All holds := by
  have covered := all.cover i
  exact ⟨covered.rest, covered.block.set new i⟩

theorem write {values : Nat → α} (all : row.All holds) (first n : Nat)
    (new : ∀ i, holds (values i)) : (row.write first n values).All holds := by
  have written : ∀ (left i : Nat) (row : Sparse α), row.All holds →
      (write.go first values row i left).All holds := by
    intro left
    induction left with
    | zero =>
        intro i row all
        exact all
    | succ left ih =>
        intro i row all
        exact ih (i + 1) _ (all.set (new i) _)
  exact written n 0 row all

variable [DecidableEq α]

theorem fill (all : row.All holds) (new : holds value) (first n : Nat) :
    (row.fill first n value).All holds := by
  cases n with
  | zero => exact all
  | succ n =>
      have covered := all.cover (first + n)
      exact ⟨covered.rest, covered.block.fill new _ _⟩

theorem copyBlock {height : Nat} {block : Block α height} (allBlock : block.All holds)
    (all : row.All holds) (first last target : Nat) :
    (copyBlock block first last target row).All holds := by
  induction block generalizing first last target row with
  | uniform value => exact all.fill allBlock _ _
  | chunk values => exact all.write _ _ fun i => allBlock.get _
  | halves low high ihLow ihHigh =>
      simp only [Sparse.copyBlock]
      split
      · exact all
      · exact ihHigh allBlock.2 (ihLow allBlock.1 all _ _ _) _ _ _

theorem copy (all : row.All holds) (allSource : source.All holds) (first n target : Nat) :
    (row.copy source first n target).All holds := by
  have inner :=
    copyBlock allSource.block all first (min (first + n) (Block.span source.height)) target
  exact inner.fill allSource.rest _ _

end All

end Sparse

end WasmHost
