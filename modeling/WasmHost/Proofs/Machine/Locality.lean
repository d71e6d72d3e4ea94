import Mathlib
import WasmHost.Machine.Sparse

/-!
# Changes of a sparse row are local

A row is changed at one place, filled over a stretch, or overwritten by a stretch of another row.
The blocks that hold the values are split, joined and made higher on the way. This file proves that
all of this shows only where the change is made: elsewhere the row reads as before.

A block reads a place by its low bits only. So the values of an upper half can be read at the place
itself or at its distance from the middle, and statements about one block are made modulo its span.
-/

namespace WasmHost

namespace Block

variable {α : Type} {height i j first last : Nat}

theorem span_pos (height : Nat) : 0 < span height :=
  Nat.two_pow_pos _

theorem span_succ (height : Nat) : span (height + 1) = span height * 2 := by
  simp only [span, powerOfTwo, Nat.pow_eq]
  rw [Nat.add_right_comm, Nat.pow_succ]

theorem isUpper_iff : isUpper height i = true ↔ i / span height % 2 = 1 := by
  simp [isUpper, span, powerOfTwo, Nat.testBit_eq_decide_div_mod_eq]

/-- Within two halves, the upper one has the places from the middle on. -/
theorem isUpper_iff_le (inside : i < span (height + 1)) :
    isUpper height i = true ↔ span height ≤ i := by
  have positive := span_pos height
  rw [span_succ] at inside
  have small : i / span height < 2 := Nat.div_lt_of_lt_mul inside
  rw [isUpper_iff, Nat.mod_eq_of_lt small, ← Nat.one_le_div_iff positive]
  omega

/-- The low bits of a place are those within a half and the one that chooses the half. -/
theorem mod_span_succ_iff :
    i % span (height + 1) = j % span (height + 1) ↔
      isUpper height i = isUpper height j ∧ i % span height = j % span height := by
  rw [span_succ, Bool.eq_iff_iff, isUpper_iff, isUpper_iff]
  constructor
  · intro same
    have halves := congrArg (· / span height) same
    have places := congrArg (· % span height) same
    simp only [Nat.mod_mul_right_div_self, Nat.mod_mul_right_mod] at halves places
    exact ⟨by rw [halves], places⟩
  · rintro ⟨halves, places⟩
    rw [Nat.mod_mul, Nat.mod_mul, places]
    have : i / span height % 2 = j / span height % 2 := by omega
    rw [this]

/-- A block reads a place by its low bits. -/
theorem get_congr (block : Block α height) (same : i % span height = j % span height) :
    block.get i = block.get j := by
  induction block with
  | uniform value => rfl
  | chunk values =>
      change i % chunkSize = j % chunkSize at same
      simp only [get, same]
  | halves low high ihLow ihHigh =>
      rcases mod_span_succ_iff.mp same with ⟨half, places⟩
      simp only [get, half, ihLow places, ihHigh places]

theorem get_sub_span (block : Block α height) (upper : span height ≤ i) :
    block.get (i - span height) = block.get i := by
  apply get_congr
  conv_rhs => rw [← Nat.sub_add_cancel upper, Nat.add_mod_right]

/-- A uniform block reads like two uniform halves. -/
theorem get_halves_uniform (value : α) (i : Nat) :
    (halves (uniform value) (uniform value) : Block α (height + 1)).get i = value := by
  simp only [get, ite_self]

theorem get_set_of_ne (block : Block α height) (value : α)
    (apart : i % span height ≠ j % span height) : (block.set i value).get j = block.get j := by
  induction height with
  | zero =>
      have apart : i % chunkSize ≠ j % chunkSize := apart
      cases block with
      | uniform old => simp [set, get, Vector.get_eq_getElem, apart]
      | chunk values => simp [set, get, Vector.get_eq_getElem, apart]
  | succ height ih =>
      -- Only one half is changed, and the place is in the other one or elsewhere in this one.
      have parts : ∀ low high : Block α height,
          (if isUpper height i then halves low (high.set i value)
            else halves (low.set i value) high).get j = (halves low high).get j := by
        intro low high
        have apartBelow : isUpper height i = isUpper height j →
            i % span height ≠ j % span height := by
          intro sameHalf samePlace
          exact apart (mod_span_succ_iff.mpr ⟨sameHalf, samePlace⟩)
        cases upper : isUpper height i <;> cases other : isUpper height j <;>
          rw [upper, other] at apartBelow <;> simp [get, other, ih, apartBelow]
      cases block with
      | uniform old =>
          simp only [set]
          rw [parts, get_halves_uniform]
          rfl
      | halves low high =>
          simp only [set]
          exact parts low high

theorem getElem_fillChunk_of_outside (values : Vector α chunkSize) (n : Nat) (value : α)
    (inside : i < chunkSize) (outside : i < first ∨ first + n ≤ i) :
    (fillChunk values first n value)[i] = values[i] := by
  induction n generalizing values first with
  | zero => rfl
  | succ n ih =>
      simp only [fillChunk]
      rw [ih _ (by omega), Vector.getElem_setIfInBounds_ne _ (by omega)]

variable [DecidableEq α]

/-- Whether equal values are held one by one or together does not show. -/
theorem get_ofChunk (values : Vector α chunkSize) (value : α) (i : Nat) :
    (ofChunk values value).get i = (chunk values).get i := by
  simp only [ofChunk]
  split
  · rename_i allEqual
    simp only [Vector.all_eq_true, decide_eq_true_eq] at allEqual
    simp only [get, Vector.get_eq_getElem, allEqual]
  · rfl

theorem get_join (low high : Block α height) (i : Nat) :
    (join low high).get i = (halves low high).get i := by
  cases low <;> cases high <;> simp only [join]
  split
  · rename_i same
    rw [same, get_halves_uniform]
    rfl
  · rfl

theorem get_fill_of_outside (block : Block α height) (value : α) (inside : i < span height)
    (outside : i < first ∨ last ≤ i) : (block.fill first last value).get i = block.get i := by
  induction height generalizing i first last with
  | zero =>
      have inside : i < chunkSize := inside
      have place : i % chunkSize = i := Nat.mod_eq_of_lt inside
      have filled : ∀ values : Vector α chunkSize,
          (ofChunk (fillChunk values first (min last chunkSize - first) value) value).get i
            = values[i] := by
        intro values
        rw [get_ofChunk]
        simp only [get, Vector.get_eq_getElem, place]
        exact getElem_fillChunk_of_outside values _ value inside (by omega)
      simp only [fill]
      split
      · rfl
      · cases block with
        | uniform old =>
            simp only [filled]
            simp [get]
        | chunk values =>
            simp only [filled]
            simp [get, Vector.get_eq_getElem, place]
  | succ height ih =>
      have halfway := span_succ height
      have parts : ∀ low high : Block α height,
          (join (low.fill first (min last (span height)) value)
            (high.fill (first - span height) (last - span height) value)).get i
              = (halves low high).get i := by
        intro low high
        rw [get_join]
        simp only [get]
        by_cases upper : span height ≤ i
        · have isUpper := (isUpper_iff_le inside).mpr upper
          rw [if_pos isUpper, if_pos isUpper]
          -- The upper half is filled by distances from the middle.
          rw [← get_sub_span _ upper, ← get_sub_span high upper]
          exact ih high (by omega) (by omega)
        · have lower := mt (isUpper_iff_le inside).mp upper
          rw [if_neg lower, if_neg lower]
          exact ih low (by omega) (by omega)
      simp only [fill]
      split
      · rfl
      · split
        · omega
        · cases block with
          | uniform old =>
              simp only
              split
              · rfl
              · rw [parts, get_halves_uniform]
                rfl
          | halves low high => exact parts low high

end Block

namespace Sparse

open Block

variable {α : Type} {row : Sparse α} {i j first n : Nat}

theorem holds_iff : row.holds i = true ↔ i < span row.height := by
  simp only [holds, span, powerOfTwo, Nat.pow_eq, Nat.shiftRight_eq_div_pow, decide_eq_true_eq]
  exact Nat.div_eq_zero_iff_lt (Nat.two_pow_pos _)

/-- What a row reads within its block, and what it reads after it. -/
theorem get_mk {rest : α} {height : Nat} (block : Block α height) (i : Nat) :
    (⟨rest, height, block⟩ : Sparse α).get i = if i < span height then block.get i else rest := by
  simp only [get, holds_iff]

/-- A higher block has the value of all places after it in its new half. -/
theorem get_raise (heights : Nat) (row : Sparse α) (i : Nat) :
    (row.raise heights).get i = row.get i := by
  induction heights generalizing row with
  | zero => rfl
  | succ heights ih =>
      rcases row with ⟨rest, height, block⟩
      have halfway := span_succ height
      simp only [raise]
      rw [ih, get_mk, get_mk]
      split
      · rename_i inside
        simp only [Block.get]
        by_cases upper : span height ≤ i
        · rw [if_pos ((isUpper_iff_le inside).mpr upper), if_neg (by omega)]
        · rw [if_neg (mt (isUpper_iff_le inside).mp upper), if_pos (by omega)]
      · rw [if_neg (by omega)]

theorem height_raise (heights : Nat) (row : Sparse α) :
    (row.raise heights).height = row.height + heights := by
  induction heights generalizing row with
  | zero => rfl
  | succ heights ih =>
      simp only [raise, ih]
      omega

theorem get_cover (row : Sparse α) (i j : Nat) : (row.cover i).get j = row.get j := by
  simp only [cover]
  split
  · rfl
  · exact get_raise _ row j

theorem lt_span_cover (row : Sparse α) (i : Nat) : i < span (row.cover i).height := by
  simp only [cover]
  split
  · rename_i inside
    exact holds_iff.mp inside
  · rw [height_raise]
    apply Nat.lt_of_lt_of_le (Nat.lt_log2_self : i < 2 ^ (i.log2 + 1))
    exact Nat.pow_le_pow_right (by decide) (by omega)

/-- A change of the block that does not show within it does not show in the row. -/
theorem get_mk_of_block (rest : α) {height : Nat} {block changed : Block α height}
    (same : i < span height → changed.get i = block.get i) :
    (⟨rest, height, changed⟩ : Sparse α).get i = (⟨rest, height, block⟩ : Sparse α).get i := by
  rw [get_mk, get_mk]
  split
  · rename_i inside
    exact same inside
  · rfl

theorem get_set_of_ne (row : Sparse α) (value : α) (apart : i ≠ j) :
    (row.set i value).get j = row.get j := by
  have held := row.lt_span_cover i
  rw [← row.get_cover i j, set]
  generalize row.cover i = covered at held
  rcases covered with ⟨rest, height, block⟩
  apply get_mk_of_block
  intro inside
  apply Block.get_set_of_ne
  rw [Nat.mod_eq_of_lt held, Nat.mod_eq_of_lt inside]
  exact apart

theorem get_write_of_outside (row : Sparse α) (value : Nat → α)
    (outside : j < first ∨ first + n ≤ j) : (row.write first n value).get j = row.get j := by
  have written : ∀ (left i : Nat) (row : Sparse α), j < first ∨ first + i + left ≤ j →
      (write.go first value row i left).get j = row.get j := by
    intro left
    induction left with
    | zero =>
        intro i row _
        rfl
    | succ left ih =>
        intro i row outside
        simp only [write.go]
        rw [ih (i + 1) _ (by omega), get_set_of_ne _ _ (by omega)]
  exact written n 0 row outside

variable [DecidableEq α]

theorem get_fill_of_outside (row : Sparse α) (value : α) (outside : j < first ∨ first + n ≤ j) :
    (row.fill first n value).get j = row.get j := by
  cases n with
  | zero => rfl
  | succ n =>
      rw [← row.get_cover (first + n) j, fill]
      rcases row.cover (first + n) with ⟨rest, height, block⟩
      apply get_mk_of_block
      intro inside
      exact Block.get_fill_of_outside block value inside outside

theorem get_copyBlock_of_outside {height last target : Nat} (block : Block α height)
    (row : Sparse α) (outside : j < target ∨ target + (last - first) ≤ j) :
    (copyBlock block first last target row).get j = row.get j := by
  induction block generalizing first last target row with
  | uniform value => exact get_fill_of_outside row value outside
  | chunk values => exact get_write_of_outside row _ outside
  | halves low high ihLow ihHigh =>
      simp only [copyBlock]
      split
      · rfl
      · rw [ihHigh _ (by omega), ihLow _ (by omega)]

theorem get_copy_of_outside {target : Nat} (row source : Sparse α)
    (outside : j < target ∨ target + n ≤ j) :
    (row.copy source first n target).get j = row.get j := by
  simp only [copy]
  rw [get_fill_of_outside _ _ (by omega), get_copyBlock_of_outside _ _ (by omega)]

end Sparse

end WasmHost
