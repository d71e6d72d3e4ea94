import Mathlib
import WasmHost.Machine.State
import WasmHost.Validation.Module

/-!
# Types of values on the operand stack

Validation follows the types on the operand stack, and execution the values. This file relates the
two: what each function of the checker accepts is a stack of values of the types that it has found,
and what it leaves describes the values after the instruction.

A function reference is of a type for functions if it names a function of the module. There are no
external references but null, so null is all that a type for external references allows.
-/

namespace WasmHost

/-- The value is of the type in the module. Null is of each type of references. -/
inductive Value.HasType (m : LinkedModule) : Value → ValType → Prop
  | i32 (bits : UInt32) : HasType m (.i32 bits) .i32
  | i64 (bits : UInt64) : HasType m (.i64 bits) .i64
  | f32 (bits : UInt32) : HasType m (.f32 bits) .f32
  | f64 (bits : UInt64) : HasType m (.f64 bits) .f64
  | v128 (bits : BitVec 128) : HasType m (.v128 bits) .v128
  | null (nullable : Bool) (heap : HeapType) : HasType m (.ref .null) (.ref nullable heap)
  | func {index : Nat} {callee : Callee} (nullable : Bool) (found : m.callee? index = some callee) :
      HasType m (.ref (.func index)) (.ref nullable .func)

namespace Value.HasType

variable {m : LinkedModule} {value : Value}

theorem exists_i32 (typed : value.HasType m .i32) : ∃ bits, value = .i32 bits := by
  cases typed with
  | i32 bits => exact ⟨bits, rfl⟩

theorem exists_index {index : IndexType} (typed : value.HasType m index.valType) :
    ∃ n, value.toIndex? = some n := by
  cases index with
  | i32 =>
      cases typed with
      | i32 bits => exact ⟨_, rfl⟩
  | i64 =>
      cases typed with
      | i64 bits => exact ⟨_, rfl⟩

theorem exists_word {type : NumType} (typed : value.HasType m (.num type)) :
    ∃ word, value.word? = some word := by
  cases typed <;> exact ⟨_, rfl⟩

theorem exists_ref {type : ValType} (typed : value.HasType m type) (isRef : type.isRef = true) :
    ∃ reference, value = .ref reference := by
  cases typed with
  | null nullable heap => exact ⟨_, rfl⟩
  | func nullable found => exact ⟨_, rfl⟩
  | _ => simp [ValType.isRef] at isRef

theorem ofDefault (type : ValType) : (Value.default type).HasType m type := by
  rcases type with (_ | _ | _ | _) | _ | ⟨nullable, heap⟩
  · exact .i32 0
  · exact .i64 0
  · exact .f32 0
  · exact .f64 0
  · exact .v128 0
  · exact .null nullable heap

theorem ofNull {type : ValType} (isRef : type.isRef = true) : (Value.ref .null).HasType m type := by
  cases type with
  | ref nullable heap => exact .null nullable heap
  | _ => simp [ValType.isRef] at isRef

theorem ofIndex (index : IndexType) (n : Nat) :
    (Value.ofIndex index n).HasType m index.valType := by
  cases index with
  | i32 => exact .i32 _
  | i64 => exact .i64 _

theorem minusOne (index : IndexType) : (Value.minusOne index).HasType m index.valType := by
  cases index with
  | i32 => exact .i32 _
  | i64 => exact .i64 _

end Value.HasType

/-- The values, top one first, are of the types, of which the last one is on top. -/
def Stacked (m : LinkedModule) (values : List Value) (types : List ValType) : Prop :=
  List.Forall₂ (Value.HasType m) values types.reverse

section Stacks

variable {m : LinkedModule} {values : List Value} {types : List ValType}

theorem Stacked.length (stacked : Stacked m values types) : values.length = types.length := by
  rw [List.Forall₂.length_eq stacked, List.length_reverse]

/-- Bottom one first, the values stand as their types do. -/
theorem Stacked.reverse (stacked : Stacked m values types) :
    List.Forall₂ (Value.HasType m) values.reverse types := by
  have reversed := List.rel_reverse stacked
  rwa [List.reverse_reverse] at reversed

theorem stacked_nil_iff : Stacked m values [] ↔ values = [] := by
  simp [Stacked]

/-- The last type is that of the value on top. -/
theorem stacked_concat_iff {type : ValType} :
    Stacked m values (types ++ [type]) ↔
      ∃ value rest, values = value :: rest ∧ value.HasType m type ∧ Stacked m rest types := by
  rw [Stacked, List.reverse_append, List.reverse_singleton, List.singleton_append,
    List.forall₂_cons_right_iff]
  constructor
  · rintro ⟨value, rest, typed, others, rfl⟩
    exact ⟨value, rest, rfl, typed, others⟩
  · rintro ⟨value, rest, rfl, typed, others⟩
    exact ⟨value, rest, typed, others, rfl⟩

theorem stacked_singleton_iff {type : ValType} :
    Stacked m values [type] ↔ ∃ value, values = [value] ∧ value.HasType m type := by
  rw [← List.nil_append [type], stacked_concat_iff]
  simp [stacked_nil_iff, and_comm]

theorem stacked_pair_iff {first second : ValType} :
    Stacked m values [first, second] ↔ ∃ lower upper, values = [upper, lower] ∧
      lower.HasType m first ∧ upper.HasType m second := by
  rw [← List.singleton_append, stacked_concat_iff]
  simp only [stacked_singleton_iff]
  constructor
  · rintro ⟨upper, _, rfl, typedUpper, lower, rfl, typedLower⟩
    exact ⟨lower, upper, rfl, typedLower, typedUpper⟩
  · rintro ⟨lower, upper, rfl, typedLower, typedUpper⟩
    exact ⟨upper, _, rfl, typedUpper, lower, rfl, typedLower⟩

theorem stacked_triple_iff {first second third : ValType} :
    Stacked m values [first, second, third] ↔ ∃ lower middle upper,
      values = [upper, middle, lower] ∧ lower.HasType m first ∧ middle.HasType m second ∧
        upper.HasType m third := by
  rw [show [first, second, third] = [first, second] ++ [third] from rfl, stacked_concat_iff]
  simp only [stacked_pair_iff]
  constructor
  · rintro ⟨upper, _, rfl, typedUpper, lower, middle, rfl, typedLower, typedMiddle⟩
    exact ⟨lower, middle, upper, rfl, typedLower, typedMiddle, typedUpper⟩
  · rintro ⟨lower, middle, upper, rfl, typedLower, typedMiddle, typedUpper⟩
    exact ⟨upper, _, rfl, typedUpper, lower, middle, rfl, typedLower, typedMiddle⟩

end Stacks

namespace Operands

/-- The stack has a bottom, and the types on it are known to be those of the values. -/
structure Describes (m : LinkedModule) (operands : Operands) (values : List Value) : Prop where
  bottom : operands.bottomless = false
  typed : List.Forall₂ (fun value known => ∃ type, known = some type ∧ value.HasType m type) values
    operands.known

namespace Describes

variable {m : LinkedModule} {operands after : Operands} {values : List Value}

theorem empty : ({} : Operands).Describes m [] :=
  ⟨rfl, .nil⟩

theorem push (describes : operands.Describes m values) {value : Value} {type : ValType}
    (typed : value.HasType m type) : (operands.push type).Describes m (value :: values) :=
  ⟨describes.bottom, .cons ⟨type, rfl, typed⟩ describes.typed⟩

theorem popAny {found : Option ValType} (describes : operands.Describes m values)
    (popped : operands.popAny = some (found, after)) :
    ∃ type value rest, found = some type ∧ values = value :: rest ∧ value.HasType m type ∧
      after.Describes m rest := by
  rcases describes with ⟨bottom, typed⟩
  rcases operands with ⟨known, bottomless⟩
  cases bottom
  cases typed with
  | nil => simp [Operands.popAny] at popped
  | @cons value top rest others first rest =>
      rcases first with ⟨type, rfl, typed⟩
      simp only [Operands.popAny, Option.some.injEq, Prod.mk.injEq] at popped
      rcases popped with ⟨rfl, rfl⟩
      exact ⟨type, value, _, rfl, rfl, typed, rfl, rest⟩

theorem popFound {type : ValType} {found : Option ValType} (describes : operands.Describes m values)
    (popped : operands.popFound type = some (found, after)) :
    ∃ value rest, found = some type ∧ values = value :: rest ∧ value.HasType m type ∧
      after.Describes m rest := by
  simp only [Operands.popFound] at popped
  split at popped
  · rename_i rest top
    rcases describes.popAny top with ⟨_, _, _, known, _⟩
    simp at known
  · rename_i other rest top
    rcases describes.popAny top with ⟨_, value, lower, known, rfl, typed, describesLower⟩
    split at popped
    · rename_i same
      simp only [Option.some.injEq, Prod.mk.injEq] at popped known
      rcases popped with ⟨rfl, rfl⟩
      subst same known
      exact ⟨value, lower, rfl, rfl, typed, describesLower⟩
    · simp at popped
  · simp at popped

theorem pop {type : ValType} (describes : operands.Describes m values)
    (popped : operands.pop type = some after) :
    ∃ value rest, values = value :: rest ∧ value.HasType m type ∧ after.Describes m rest := by
  rcases Option.map_eq_some_iff.mp popped with ⟨⟨found, rest⟩, taken, rfl⟩
  rcases describes.popFound taken with ⟨value, rest, _, rfl, typed, describesRest⟩
  exact ⟨value, rest, rfl, typed, describesRest⟩

theorem popAll {types : List ValType} (describes : operands.Describes m values)
    (popped : operands.popAll types = some after) :
    ∃ front rest, values = front ++ rest ∧ Stacked m front types ∧ after.Describes m rest := by
  have folded : ∀ (types : List ValType) (operands : Operands) (values : List Value),
      operands.Describes m values → types.foldlM Operands.pop operands = some after →
        ∃ front rest, values = front ++ rest ∧ List.Forall₂ (Value.HasType m) front types ∧
          after.Describes m rest := by
    intro types
    induction types with
    | nil =>
        intro operands values describes popped
        cases popped
        exact ⟨[], values, rfl, .nil, describes⟩
    | cons type rest ih =>
        intro operands values describes popped
        rw [List.foldlM_cons, Option.bind_eq_bind, Option.bind_eq_some_iff] at popped
        rcases popped with ⟨middle, top, popped⟩
        rcases describes.pop top with ⟨value, lower, rfl, typed, describesLower⟩
        rcases ih middle lower describesLower popped with ⟨front, last, rfl, stacked, describesLast⟩
        exact ⟨value :: front, last, rfl, .cons typed stacked, describesLast⟩
  exact folded types.reverse operands values describes popped

theorem pushAll {front : List Value} {types : List ValType}
    (describes : operands.Describes m values) (stacked : Stacked m front types) :
    (operands.pushAll types).Describes m (front ++ values) := by
  refine ⟨describes.bottom, ?_⟩
  have typed : List.Forall₂ (fun value known => ∃ type, known = some type ∧ value.HasType m type)
      front (types.reverse.map some) := by
    rw [List.forall₂_map_right_iff]
    exact List.Forall₂.imp (fun _ type typed => ⟨type, rfl, typed⟩) stacked
  exact List.rel_append typed describes.typed

theorem apply {type : FuncType} (describes : operands.Describes m values)
    (applied : operands.apply type = some after) :
    ∃ front rest, values = front ++ rest ∧ Stacked m front type.params ∧
      ∀ results, Stacked m results type.results → after.Describes m (results ++ rest) := by
  rcases Option.map_eq_some_iff.mp applied with ⟨lower, popped, rfl⟩
  rcases describes.popAll popped with ⟨front, rest, rfl, stacked, describesRest⟩
  exact ⟨front, rest, rfl, stacked, fun results typed => describesRest.pushAll typed⟩

/-- A stack that is looked at stays as it was, and has what was looked for on top. -/
theorem review {types : List ValType} (describes : operands.Describes m values)
    (reviewed : operands.review types = some after) :
    after.Describes m values ∧ ∃ front rest, values = front ++ rest ∧ Stacked m front types := by
  have gone : ∀ (types : List ValType) (operands : Operands) (seen values : List Value)
      (found : List (Option ValType)), operands.Describes m values →
        List.Forall₂ (fun value known => ∃ type, known = some type ∧ value.HasType m type) seen
            found →
        review.go types operands found = some after →
          after.Describes m (seen.reverse ++ values) ∧
            ∃ front rest, values = front ++ rest ∧ List.Forall₂ (Value.HasType m) front types := by
    intro types
    induction types with
    | nil =>
        intro operands seen values found describes seenTyped reviewed
        simp only [review.go, Option.some.injEq] at reviewed
        rw [← reviewed]
        exact ⟨⟨describes.bottom, List.rel_append (List.rel_reverse seenTyped) describes.typed⟩, [],
          values, rfl, .nil⟩
    | cons type rest ih =>
        intro operands seen values found describes seenTyped reviewed
        simp only [review.go] at reviewed
        split at reviewed
        · rename_i top middle popped
          rcases describes.popFound popped with ⟨value, lower, rfl, rfl, typed, describesLower⟩
          rcases ih middle (value :: seen) lower (some type :: found) describesLower
            (.cons ⟨type, rfl, typed⟩ seenTyped) reviewed with ⟨kept, front, last, rfl, stacked⟩
          rw [List.reverse_cons, List.append_assoc] at kept
          exact ⟨kept, value :: front, last, rfl, .cons typed stacked⟩
        · simp at reviewed
  exact gone types.reverse operands [] values [] describes .nil reviewed

theorem finishes {results : List ValType} (describes : operands.Describes m values)
    (finished : operands.finishes results = true) : Stacked m values results := by
  simp only [Operands.finishes] at finished
  split at finished
  · rename_i last popped
    rcases describes.popAll popped with ⟨front, rest, rfl, stacked, describesRest⟩
    have empty : rest = [] := by
      have typed := describesRest.typed
      rw [List.isEmpty_iff.mp finished] at typed
      exact List.forall₂_nil_right_iff.mp typed
    rw [empty, List.append_nil]
    exact stacked
  · simp at finished

end Describes

end Operands

namespace Context

variable {m : LinkedModule} {context : Context} {operands after : Operands} {values : List Value}

/-- The code is well typed from a stack of these values on, and leaves the results. -/
def Accepts (context : Context) (m : LinkedModule) (results : List ValType) (code : List Instr)
    (values : List Value) : Prop :=
  ∃ operands last, operands.Describes m values ∧ context.checkInstrs code operands = some last ∧
    last.finishes results = true

namespace Accepts

variable {results : List ValType} {code : List Instr} {instr : Instr}

theorem nil (accepts : context.Accepts m results [] values) : Stacked m values results := by
  rcases accepts with ⟨operands, last, describes, checked, finished⟩
  simp only [checkInstrs, Option.some.injEq] at checked
  subst checked
  exact describes.finishes finished

theorem cons (accepts : context.Accepts m results (instr :: code) values) :
    ∃ operands after, operands.Describes m values ∧ context.checkInstr instr operands = some after ∧
      ∀ next, after.Describes m next → context.Accepts m results code next := by
  rcases accepts with ⟨operands, last, describes, checked, finished⟩
  simp only [checkInstrs] at checked
  split at checked
  · rename_i after checkedInstr
    refine ⟨operands, after, describes, checkedInstr, ?_⟩
    intro next describesNext
    exact ⟨after, last, describesNext, checked, finished⟩
  · simp at checked

theorem of_isResult {type : FuncType} {body : List Instr}
    (typed : type.isResult (context.checkInstrs body type.entry) = true)
    (stacked : Stacked m values type.params) : context.Accepts m type.results body values := by
  cases checked : context.checkInstrs body type.entry with
  | none => simp [checked, FuncType.isResult] at typed
  | some last =>
      rw [checked] at typed
      refine ⟨type.entry, last, ?_, checked, typed⟩
      simpa [FuncType.entry] using Operands.Describes.empty.pushAll stacked

end Accepts

/-- A choice finds a condition and two operands, either of which fits in their place. -/
theorem select_describes {type : Option ValType} (describes : operands.Describes m values)
    (checked : select type operands = some after) :
    ∃ condition second first rest, values = .i32 condition :: second :: first :: rest ∧
      after.Describes m (first :: rest) ∧ after.Describes m (second :: rest) := by
  simp only [select, Option.bind_eq_bind, Option.bind_eq_some_iff] at checked
  rcases checked with ⟨popped, top, checked⟩
  rcases describes.pop top with ⟨value, middle, rfl, typed, describesMiddle⟩
  rcases typed.exists_i32 with ⟨condition, rfl⟩
  cases type with
  | some type =>
      rcases describesMiddle.apply checked with ⟨front, rest, rfl, stacked, describesAfter⟩
      rcases stacked_pair_iff.mp stacked with ⟨first, second, rfl, typedFirst, typedSecond⟩
      refine ⟨condition, second, first, rest, rfl, ?_, ?_⟩
      · exact describesAfter [first] (stacked_singleton_iff.mpr ⟨first, rfl, typedFirst⟩)
      · exact describesAfter [second] (stacked_singleton_iff.mpr ⟨second, rfl, typedSecond⟩)
  | none =>
      simp only [Option.bind_eq_some_iff, Prod.exists] at checked
      rcases checked with ⟨second, rest, poppedSecond, first, lower, poppedFirst, _, _, checked⟩
      rcases describesMiddle.popAny poppedSecond with
        ⟨secondType, secondValue, _, rfl, rfl, typedSecond, describesNext⟩
      rcases describesNext.popAny poppedFirst with
        ⟨firstType, firstValue, last, rfl, rfl, typedFirst, describesLast⟩
      simp only [Option.bind_eq_some_iff, Option.guard_eq_some'] at checked
      rcases checked with ⟨_, rfl, checked⟩
      cases checked
      exact ⟨condition, secondValue, firstValue, last, rfl, describesLast.push typedFirst,
        describesLast.push typedSecond⟩

theorem isNull_describes (describes : operands.Describes m values)
    (checked : isNull operands = some after) :
    ∃ value rest, values = value :: rest ∧ ∀ bits, after.Describes m (.i32 bits :: rest) := by
  simp only [isNull, Option.bind_eq_bind, Option.bind_eq_some_iff, Prod.exists] at checked
  rcases checked with ⟨type, lower, popped, _, _, checked⟩
  rcases describes.popAny popped with ⟨_, value, rest, _, rfl, _, describesRest⟩
  cases checked
  exact ⟨value, rest, rfl, fun bits => describesRest.push (.i32 bits)⟩

/-- Each block that a branch may name is there, and the stack has what it takes on top. -/
theorem branchTable_describes {labels : Array Nat} {otherwise : Nat}
    (describes : operands.Describes m values)
    (checked : context.branchTable labels otherwise operands = some after) :
    ∃ index rest, values = .i32 index :: rest ∧ ∀ label, label = otherwise ∨ label ∈ labels →
      ∃ types front below, context.labels[label]? = some types ∧ rest = front ++ below ∧
        Stacked m front types := by
  simp only [branchTable, Option.bind_eq_bind, Option.bind_eq_some_iff] at checked
  rcases checked with ⟨popped, top, last, present, reviewed, folded, lower, taken, _⟩
  rcases describes.pop top with ⟨value, rest, rfl, typed, describesRest⟩
  rcases typed.exists_i32 with ⟨index, rfl⟩
  have all : ∀ (labels : List Nat) (operands : Operands), operands.Describes m rest →
      labels.foldlM (fun operands label => do
        let types ← context.labels[label]?
        guard (types.length = last.length)
        operands.review types) operands = some reviewed →
      reviewed.Describes m rest ∧ ∀ label ∈ labels, ∃ types front below,
        context.labels[label]? = some types ∧ rest = front ++ below ∧ Stacked m front types := by
    intro labels
    induction labels with
    | nil =>
        intro operands describes folded
        cases folded
        exact ⟨describes, by simp⟩
    | cons label others ih =>
        intro operands describes folded
        simp only [List.foldlM_cons, Option.bind_eq_bind, Option.bind_eq_some_iff,
          Option.guard_eq_some'] at folded
        rcases folded with ⟨next, ⟨types, found, _, _, looked⟩, folded⟩
        rcases describes.review looked with ⟨describesNext, front, below, same, stacked⟩
        rcases ih next describesNext folded with ⟨describesReviewed, rests⟩
        exact ⟨describesReviewed,
          List.forall_mem_cons.mpr ⟨⟨types, front, below, found, same, stacked⟩, rests⟩⟩
  rcases all labels.toList popped describesRest (by simpa using folded) with
    ⟨describesReviewed, others⟩
  rcases describesReviewed.popAll taken with ⟨front, below, same, stacked, _⟩
  refine ⟨index, rest, rfl, ?_⟩
  rintro label (rfl | label_mem)
  · exact ⟨last, front, below, present, same, stacked⟩
  · exact others label (by simpa using label_mem)

end Context

end WasmHost
