import Mathlib
import WasmHost.Binary.Module

/-!
# What decoding guarantees

Some of what execution relies on is no matter of validation, because the binary format leaves no
room for anything else: the elements of tables are references, and an announced number of data
segments is the number of those that there are. This file follows both through the decoder of
modules.

`Decoder.Gives` says what holds of all values that a decoder gives. It is kept by sequences, so that
a decoder is taken apart the way it was put together.
-/

namespace WasmHost

namespace Decoder

/-- The property holds of each value that the decoder gives. -/
def Gives {α : Type} (holds : α → Prop) (decoder : Decoder α) : Prop :=
  ∀ bytes value rest, decoder bytes = some (value, rest) → holds value

namespace Gives

variable {α β : Type} {holds : α → Prop} {other : β → Prop} {decoder : Decoder α}
  {next : α → Decoder β}

theorem trivial (decoder : Decoder α) : Gives (fun _ => True) decoder :=
  fun _ _ _ _ => .intro

theorem pure {value : α} (has : holds value) : Gives holds (Pure.pure value : Decoder α) := by
  intro bytes given rest decoded
  cases decoded
  exact has

theorem failure : Gives holds (Alternative.failure : Decoder α) := by
  intro bytes given rest decoded
  cases decoded

theorem ofGuard (condition : Prop) [Decidable condition] :
    Gives (fun _ => condition) (guard condition : Decoder Unit) := by
  intro bytes given rest decoded
  by_cases met : condition
  · exact met
  · simp only [guard, met, if_false] at decoded
    cases decoded

theorem bind (first : Gives holds decoder)
    (second : ∀ value, holds value → Gives other (next value)) :
    Gives other (decoder >>= next) := by
  intro bytes given rest decoded
  rcases Option.bind_eq_some_iff.mp decoded with ⟨⟨value, middle⟩, decodedFirst, decodedRest⟩
  exact second value (first bytes value middle decodedFirst) middle given rest decodedRest

theorem runOn (gives : Gives holds decoder) {bytes : List UInt8} {value : α}
    (decoded : decoder.runOn bytes = some value) : holds value := by
  simp only [Decoder.runOn] at decoded
  split at decoded
  · rename_i found
    cases decoded
    exact gives bytes value [] found
  · simp at decoded

theorem within (gives : Gives holds decoder) (n : Nat) : Gives holds (decoder.within n) := by
  refine bind (trivial _) ?_
  intro bytes _
  split
  · rename_i decoded
    exact pure (gives.runOn decoded)
  · exact failure

theorem replicate (gives : Gives holds decoder) (n : Nat) :
    Gives (fun items => ∀ item ∈ items, holds item) (decoder.replicate n) := by
  have collected : ∀ (n : Nat) (items : List α), (∀ item ∈ items, holds item) →
      Gives (fun items => ∀ item ∈ items, holds item) (replicate.go decoder n items) := by
    intro n
    induction n with
    | zero =>
        intro items all
        exact pure all
    | succ n ih =>
        intro items all
        exact bind gives fun item has => ih (item :: items) (List.forall_mem_cons.mpr ⟨has, all⟩)
  rw [Decoder.replicate, map_eq_pure_bind]
  refine bind (collected n [] (by simp)) ?_
  intro items all
  exact pure fun item item_mem => all item (List.mem_reverse.mp item_mem)

theorem vector (gives : Gives holds decoder) (limit : Nat) :
    Gives (fun items => ∀ item ∈ items, holds item) (decoder.vector limit) :=
  bind (trivial _) fun n _ => bind (trivial _) fun _ _ => gives.replicate n

end Gives

theorem refType_gives : Gives (fun type => type.isRef = true) refType :=
  .bind (.trivial _) fun _ _ => .bind (.ofGuard _) fun _ isRef => .pure isRef

theorem tableType_gives : Gives (fun type => type.element.isRef = true) tableType :=
  .bind refType_gives fun _ isRef => .bind (.trivial _) fun _ _ => .bind (.trivial _) fun _ _ =>
    .bind (.trivial _) fun _ _ => .pure isRef

/-- The tables of a module hold references. -/
def RefTables (m : Module) : Prop :=
  ∀ type ∈ m.tables, type.element.isRef = true

theorem sectionContent_gives {draft : Draft} (refs : RefTables draft.module) (kind : UInt8) :
    Gives (fun after => RefTables after.module) (sectionContent kind draft) := by
  simp only [sectionContent]
  split
  case h_4 =>
      refine .bind (tableType_gives.vector 100) ?_
      intro items all
      exact .pure fun type type_mem => all type (by simpa using type_mem)
  case h_13 => exact .failure
  all_goals exact .bind (.trivial _) fun _ _ => .pure refs

theorem sections_gives {draft : Draft} (refs : RefTables draft.module) (bound place : Nat) :
    Gives (fun after => RefTables after.module) (sections bound place draft) := by
  induction bound generalizing draft place with
  | zero =>
      intro bytes after rest decoded
      rcases Option.ite_none_right_eq_some.mp decoded with ⟨_, same⟩
      cases same
      exact refs
  | succ bound ih =>
      intro bytes after rest decoded
      simp only [sections] at decoded
      split at decoded
      · cases decoded
        exact refs
      · refine (?_ : Gives (fun after : Draft => RefTables after.module) _) bytes after rest decoded
        refine .bind (.trivial _) fun kind _ => .bind (.trivial _) fun length _ => ?_
        split
        · exact .bind (.trivial _) fun _ _ => .bind (.trivial _) fun _ _ => ih refs place
        · exact .bind (.trivial _) fun next _ => .bind (.trivial _) fun _ _ =>
            .bind ((sectionContent_gives refs kind).within length) fun _ refs => ih refs next

end Decoder

/-- The elements of tables are references, and data segments are announced as they are. -/
theorem Module.refTables_and_dataCount_of_decode {m : Module} {bytes : ByteArray}
    (decoded : Module.decode bytes = some m) :
    Decoder.RefTables m ∧ ∀ count, m.dataCount = some count → count = m.datas.size := by
  have gives : Decoder.Gives (fun m : Module => Decoder.RefTables m ∧
      ∀ count, m.dataCount = some count → count = m.datas.size) Decoder.module := by
    refine .bind (.trivial _) fun _ _ => .bind (.trivial _) fun _ _ => ?_
    have sections : Decoder.Gives (fun draft => Decoder.RefTables draft.module) fun bytes =>
        Decoder.sections bytes.length 0 {} bytes := by
      intro bytes draft rest decoded
      exact Decoder.sections_gives (by simp [Decoder.RefTables]) _ _ bytes draft rest decoded
    refine .bind sections fun draft refs => .bind (.trivial _) fun _ _ => .bind (.ofGuard _) ?_
    intro _ counted
    refine .pure ⟨refs, ?_⟩
    intro count announced
    rw [announced] at counted
    simpa using counted
  exact gives.runOn decoded

end WasmHost
