import Mathlib
import WasmHost.Proofs.Machine.Instructions

/-!
# Soundness of validation

A machine that runs a module which validation has accepted never meets a case that validation rules
out. So it traps as `unreachable` only where the code says `unreachable`, it asks for the growth of
memories and tables that are there, and a call leaves results of the types of its function.

`Surrounds` relates the labels around a piece of code to the context that the code was checked in,
and `Awaited` does so for the calls that wait. The main result, `Machine.step_typed`, says that a
step keeps these relations.
-/

namespace WasmHost

/-- The blocks around a piece of code, innermost first, and the context and results that the code is
checked with. What follows a block accepts the block's results above what lay below the block; what
a branch to a loop starts again accepts the loop's parameters. -/
inductive Surrounds (m : LinkedModule) (whole : Context) :
    List Label → Context → List ValType → Prop
  | body : Surrounds m whole [] whole whole.results
  | block {label : Label} {outer : List Label} {context : Context} {results types : List ValType}
      (around : Surrounds m whole outer context results)
      (next : ∀ front, Stacked m front types →
        context.Accepts m results label.next (front ++ label.below))
      (arity : label.arity = types.length) (once : label.again = none) :
      Surrounds m whole (label :: outer) (context.inside types) types
  | loop {label : Label} {outer : List Label} {context : Context} {results : List ValType}
      {type : FuncType} {body : List Instr} (around : Surrounds m whole outer context results)
      (next : ∀ front, Stacked m front type.results →
        context.Accepts m results label.next (front ++ label.below))
      (arity : label.arity = type.params.length) (again : label.again = some body)
      (repeats : ∀ front, Stacked m front type.params →
        (context.inside type.params).Accepts m type.results body front) :
      Surrounds m whole (label :: outer) (context.inside type.params) type.results

namespace Surrounds

variable {m : LinkedModule} {whole context : Context} {labels : List Label}
  {results types : List ValType}

/-- Blocks change nothing in the context but the labels. -/
theorem context_eq (surrounds : Surrounds m whole labels context results) :
    context = { whole with labels := context.labels } := by
  induction surrounds with
  | body => rfl
  | block _ _ _ _ ih =>
      rw [Context.inside, ih]
  | loop _ _ _ _ _ ih =>
      rw [Context.inside, ih]

/-- A label that validation knows is that of the function as a whole, or of a block that goes on
with the types of the label. -/
theorem target (surrounds : Surrounds m whole labels context results)
    (exits : whole.labels = [whole.results]) {label : Nat}
    (known : context.labels[label]? = some types) :
    (labels.drop label = [] ∧ types = whole.results) ∨
      ∃ target outer, labels.drop label = target :: outer ∧ target.arity = types.length ∧
        (target.again = none → ∃ context results, Surrounds m whole outer context results ∧
          ∀ front, Stacked m front types →
            context.Accepts m results target.next (front ++ target.below)) ∧
        ∀ body, target.again = some body → ∃ context results,
          Surrounds m whole (target :: outer) context results ∧
            ∀ front, Stacked m front types → context.Accepts m results body front := by
  induction surrounds generalizing label with
  | body =>
      rw [exits] at known
      cases label with
      | zero =>
          cases known
          exact .inl ⟨rfl, rfl⟩
      | succ label => simp at known
  | @block first outer context results own around next arity once ih =>
      cases label with
      | zero =>
          cases known
          refine .inr ⟨first, outer, rfl, arity, fun _ => ⟨context, results, around, next⟩, ?_⟩
          intro body again
          simp [once] at again
      | succ label => exact ih known
  | @loop first outer context results type body around next arity again repeats ih =>
      cases label with
      | zero =>
          cases known
          refine .inr ⟨first, outer, rfl, arity, ?_, ?_⟩
          · intro once
            simp [again] at once
          · intro other same
            have sameBody : other = body := Option.some.inj (same.symm.trans again)
            subst sameBody
            exact ⟨_, _, .loop around next arity again repeats, repeats⟩
      | succ label => exact ih known

end Surrounds

/-- The frame runs code of a function of the module. The whole body of the function was checked in
the context `whole`, and the innermost block in `context`. -/
structure Frame.Inside (m : LinkedModule) (frame : Frame) (whole context : Context)
    (results : List ValType) : Prop where
  within : whole.Within m
  exits : whole.labels = [whole.results]
  arity_eq : frame.arity = whole.results.length
  locals : frame.locals.Fits m whole.locals
  surrounds : Surrounds m whole frame.labels context results

/-- The code and the operands have no part in this. -/
theorem Frame.Inside.moved {m : LinkedModule} {frame : Frame} {whole context : Context}
    {results : List ValType} (inside : frame.Inside m whole context results) (code : List Instr)
    (operands : List Value) :
    ({ frame with code, operands } : Frame).Inside m whole context results :=
  ⟨inside.within, inside.exits, inside.arity_eq, inside.locals, inside.surrounds⟩

/-- Each of the waiting calls accepts the results of the call that it waits for. The first one waits
for results of the types `leaves`, and the last one leaves results of the types `final`. -/
inductive Awaited (m : LinkedModule) (final : List ValType) :
    (leaves : List ValType) → List Frame → Prop
  | last : Awaited m final final []
  | caller {leaves results : List ValType} {frame : Frame} {callers : List Frame}
      {whole context : Context} (inside : frame.Inside m whole context results)
      (resumes : ∀ front, Stacked m front leaves →
        context.Accepts m results frame.code (front ++ frame.operands))
      (others : Awaited m final whole.results callers) : Awaited m final leaves (frame :: callers)

/-- The store, the operands and the waiting calls are as validation expects them, and the outermost
call leaves results of the types `final`. -/
structure Machine.Typed (module : LinkedModule) (final : List ValType) (m : Machine) : Prop where
  module_eq : m.module = module
  store : m.store.Typed module
  running : ∃ whole context results, m.frame.Inside module whole context results ∧
    context.Accepts module results m.frame.code m.frame.operands ∧
      Awaited module final whole.results m.callers

theorem Machine.Typed.withStore {m : Machine} {module : LinkedModule} {final : List ValType}
    {store : Store} (typed : m.Typed module final) (typedStore : store.Typed module) :
    ({ m with store } : Machine).Typed module final :=
  ⟨typed.module_eq, typedStore, typed.running⟩

/-- All is as validation expects it, whatever the machine asks for, and no trap is due to something
that validation rules out. What is to grow is there, and the answer goes on the stack. -/
def Signal.Typed (module : LinkedModule) (final : List ValType) : Signal → Prop
  | next m => m.Typed module final
  | done m results => m.store.Typed module ∧ List.Forall₂ (Value.HasType module) results final
  | trap _ reason => reason ≠ .unreachable
  | emit m _ => m.Typed module final
  | growMemory m index _ => ∃ memory, m.store.memories[index]? = some memory ∧
      ∀ value, value.HasType module memory.type.index.valType → (m.push value).Typed module final
  | growTable m index _ ref => ∃ table, m.store.tables[index]? = some table ∧
      (Value.ref ref).HasType module table.type.element ∧
      ∀ value, value.HasType module table.type.index.valType → (m.push value).Typed module final

theorem Context.Within.of_labels {m : LinkedModule} {whole : Context} (within : whole.Within m)
    (labels : List (List ValType)) : ({ whole with labels } : Context).Within m :=
  ⟨within.funcs, within.tables, within.memories, within.globals, within.elems, within.dataCount⟩

/-- A call that starts with arguments of its types is in no block, and its stack is empty. -/
theorem LinkedModule.inside_ofCall {m : LinkedModule} (sound : m.Sound) {func : Func}
    (present : func ∈ m.funcs) {args : List Value}
    (typed : List.Forall₂ (Value.HasType m) args func.type.params) :
    ∃ whole, (Frame.ofCall func args).Inside m whole whole whole.results ∧
      whole.results = func.type.results ∧ whole.Accepts m whole.results func.body [] := by
  have checked := sound.funcs func present
  have within := m.within
  simp only [Context.checkFunc, FuncType.isResult] at checked
  split at checked
  · rename_i last checkedBody
    refine ⟨_, ⟨?_, rfl, rfl, .ofArgs func.locals typed, .body⟩, rfl, {}, last, .empty, checkedBody,
      checked⟩
    exact ⟨within.funcs, within.tables, within.memories, within.globals, within.elems,
      within.dataCount⟩
  · simp at checked

namespace Machine

variable {m : Machine} {final : List ValType} {whole context : Context} {results : List ValType}

/-- Returning leaves the results to the caller. -/
theorem ret_typed {leaves : List ValType} {front rest : List Value} (store : m.store.Typed m.module)
    (waiting : Awaited m.module final leaves m.callers) (arity : m.frame.arity = leaves.length)
    (operands : m.frame.operands = front ++ rest) (stacked : Stacked m.module front leaves) :
    m.ret.Typed m.module final := by
  have taken : m.frame.operands.take m.frame.arity = front := by
    rw [operands, arity, ← stacked.length, List.take_left]
  simp only [ret, taken]
  generalize m.callers = callers at waiting
  cases waiting with
  | last => exact ⟨store, stacked.reverse⟩
  | caller inside resumes others =>
      exact ⟨rfl, store, _, _, _, inside.moved _ _, resumes front stacked, others⟩

section Frames

variable (store : m.store.Typed m.module) (inside : m.frame.Inside m.module whole context results)
  (waiting : Awaited m.module final whole.results m.callers)

include store inside waiting

/-- The end of a block leaves its results above what lay below it. -/
theorem leave_typed (accepts : context.Accepts m.module results [] m.frame.operands) :
    m.leave.Typed m.module final := by
  have stacked := accepts.nil
  rcases inside with ⟨within, exits, arity_eq, locals, surrounds⟩
  simp only [leave]
  generalize labels_eq : m.frame.labels = labels at surrounds
  cases surrounds with
  | body =>
      exact ret_typed store waiting arity_eq (List.append_nil _).symm stacked
  | block outer next arity once =>
      exact ⟨rfl, store, whole, _, _, ⟨within, exits, arity_eq, locals, outer⟩, next _ stacked,
        waiting⟩
  | loop outer next arity again repeats =>
      exact ⟨rfl, store, whole, _, _, ⟨within, exits, arity_eq, locals, outer⟩, next _ stacked,
        waiting⟩

/-- A branch carries the operands that its target takes. -/
theorem branch_typed {label : Nat} {types : List ValType} {front rest : List Value}
    (known : context.labels[label]? = some types) (operands : m.frame.operands = front ++ rest)
    (stacked : Stacked m.module front types) : (m.branch label).Typed m.module final := by
  rcases inside with ⟨within, exits, arity_eq, locals, surrounds⟩
  simp only [branch, Frame.branch?]
  rcases surrounds.target exits known with
    ⟨outside, rfl⟩ | ⟨target, outer, found, arity, once, again⟩
  · rw [outside]
    exact ret_typed store waiting arity_eq operands stacked
  · have taken : m.frame.operands.take target.arity = front := by
      rw [operands, arity, ← stacked.length, List.take_left]
    simp only [found, taken]
    cases kind : target.again with
    | none =>
        rcases once kind with ⟨context, results, outer, next⟩
        exact ⟨rfl, store, whole, context, results, ⟨within, exits, arity_eq, locals, outer⟩,
          next front stacked, waiting⟩
    | some body =>
        rcases again body kind with ⟨context, results, around, repeats⟩
        exact ⟨rfl, store, whole, context, results, ⟨within, exits, arity_eq, locals, around⟩,
          repeats front stacked, waiting⟩

/-- A block starts with its parameters, and what follows it with its results. -/
theorem block_typed {type : FuncType} {body : List Instr} {front rest : List Value}
    (stacked : Stacked m.module front type.params)
    (inner : type.isResult ((context.inside type.results).checkInstrs body type.entry) = true)
    (accepts : ∀ next, Stacked m.module next type.results →
      context.Accepts m.module results m.frame.code (next ++ rest)) :
    (Signal.next { m with
      frame := ({ m.frame with operands := front ++ rest } : Frame).enter type.params.length
        type.results.length none body }).Typed m.module final := by
  have length := stacked.length
  refine ⟨rfl, store, whole, context.inside type.results, type.results,
    ⟨inside.within, inside.exits, inside.arity_eq, inside.locals,
      .block inside.surrounds ?_ rfl rfl⟩, ?_, waiting⟩
  · intro next typed
    simpa [← length] using accepts next typed
  · simpa [Frame.enter, ← length] using Context.Accepts.of_isResult inner stacked

/-- A loop starts with its parameters, also when it starts again. -/
theorem loop_typed {type : FuncType} {body : List Instr} {front rest : List Value}
    (operands : m.frame.operands = front ++ rest) (stacked : Stacked m.module front type.params)
    (inner : type.isResult ((context.inside type.params).checkInstrs body type.entry) = true)
    (accepts : ∀ next, Stacked m.module next type.results →
      context.Accepts m.module results m.frame.code (next ++ rest)) :
    (Signal.next { m with
      frame := m.frame.enter type.params.length type.params.length (some body) body }).Typed
        m.module final := by
  have length := stacked.length
  refine ⟨rfl, store, whole, context.inside type.params, type.results, ⟨inside.within, inside.exits,
    inside.arity_eq, inside.locals, .loop inside.surrounds ?_ rfl rfl ?_⟩, ?_, waiting⟩
  · intro next typed
    simpa [operands, ← length] using accepts next typed
  · intro again typed
    exact .of_isResult inner typed
  · simpa [Frame.enter, operands, ← length] using Context.Accepts.of_isResult inner stacked

omit store in
/-- A signal that delivers results keeps the types, if the code that is left accepts the results. -/
theorem typed_of_delivers {signal : Signal} {types : List ValType} {rest : List Value}
    (delivers : signal.Delivers context m types rest)
    (accepts : ∀ front, Stacked m.module front types →
      context.Accepts m.module results m.frame.code (front ++ rest)) :
    signal.Typed m.module final := by
  have moved : ∀ {after : Machine} {front : List Value}, after.SamePlace m → after.Runs context →
      Stacked m.module front types → after.frame.operands = front ++ rest →
        after.Typed m.module final := by
    rintro ⟨module, store, ⟨code, operands, labels, locals, arity⟩, callers, depth⟩ front same runs
      stacked equal
    rcases same with ⟨rfl, rfl, rfl, rfl, rfl⟩
    have sameLocals : context.locals = whole.locals := by rw [inside.surrounds.context_eq]
    refine ⟨rfl, runs.store, whole, context, results, ⟨inside.within, inside.exits, inside.arity_eq,
      sameLocals ▸ runs.locals, inside.surrounds⟩, ?_, waiting⟩
    rw [equal]
    exact accepts front stacked
  have pushed : ∀ {after : Machine} {value : Value}, after.SamePlace m → after.Runs context →
      Stacked m.module [value] types → after.frame.operands = rest →
        (after.push value).Typed m.module final := by
    intro after value same runs stacked equal
    rcases same with ⟨module, code, labels, arity, callers⟩
    exact moved ⟨module, code, labels, arity, callers⟩
      ⟨runs.sound, runs.within, runs.store, runs.locals⟩ stacked (congrArg (value :: ·) equal)
  cases signal with
  | next after =>
      rcases delivers with ⟨same, runs, front, stacked, equal⟩
      exact moved same runs stacked equal
  | done after results => exact delivers.elim
  | trap after reason => exact delivers
  | emit after value => exact delivers.elim
  | growMemory after index pages =>
      rcases delivers with ⟨same, runs, equal, memory, present, rfl⟩
      refine ⟨memory, present, ?_⟩
      intro value typed
      exact pushed same runs (stacked_singleton_iff.mpr ⟨value, rfl, typed⟩) equal
  | growTable after index n ref =>
      rcases delivers with ⟨same, runs, equal, table, present, rfl, element⟩
      refine ⟨table, present, element, ?_⟩
      intro value typed
      exact pushed same runs (stacked_singleton_iff.mpr ⟨value, rfl, typed⟩) equal

variable (sound : m.module.Sound)

include sound

/-- A call takes its arguments, and its caller waits for its results. -/
theorem call_typed [Engine] {index : Nat} {callee : Callee} {front rest : List Value}
    (found : m.module.callee? index = some callee) (operands : m.frame.operands = front ++ rest)
    (stacked : Stacked m.module front callee.type.params)
    (accepts : ∀ next, Stacked m.module next callee.type.results →
      context.Accepts m.module results m.frame.code (next ++ rest)) :
    (m.call callee).Typed m.module final := by
  cases callee with
  | host func =>
      cases func
      rcases stacked_singleton_iff.mp stacked with ⟨argument, rfl, typed⟩
      rcases typed.exists_i32 with ⟨value, rfl⟩
      simp only [call, operands, List.cons_append, List.nil_append]
      exact ⟨rfl, store, whole, context, results, inside.moved _ _,
        accepts [] (stacked_nil_iff.mpr rfl), waiting⟩
  | defined func =>
      have length : front.length = func.type.params.length := stacked.length
      have present := LinkedModule.mem_funcs_of_callee? found
      rcases LinkedModule.inside_ofCall sound present stacked.reverse with
        ⟨inner, insideCallee, sameResults, acceptsBody⟩
      simp only [call, operands, ← length, List.take_left, List.drop_left]
      split
      · refine ⟨rfl, store, inner, inner, inner.results, insideCallee, acceptsBody, ?_⟩
        rw [sameResults]
        exact .caller (inside.moved _ _) accepts waiting
      · simp [Signal.Typed]

/-- A call in place of a return leaves the results of the running call. -/
theorem tailCall_typed {index : Nat} {callee : Callee} {front rest : List Value}
    (found : m.module.callee? index = some callee) (operands : m.frame.operands = front ++ rest)
    (stacked : Stacked m.module front callee.type.params)
    (sameResults : callee.type.results = whole.results) :
    (m.tailCall callee).Typed m.module final := by
  cases callee with
  | host func =>
      cases func
      rcases stacked_singleton_iff.mp stacked with ⟨argument, rfl, typed⟩
      rcases typed.exists_i32 with ⟨value, rfl⟩
      simp only [tailCall, operands, List.cons_append, List.nil_append]
      refine ⟨rfl, store, whole, whole, whole.results,
        ⟨inside.within, inside.exits, inside.arity_eq, inside.locals, .body⟩,
        ⟨{}, {}, .empty, rfl, ?_⟩, waiting⟩
      rw [← sameResults]
      rfl
  | defined func =>
      have length : front.length = func.type.params.length := stacked.length
      have present := LinkedModule.mem_funcs_of_callee? found
      rcases LinkedModule.inside_ofCall sound present stacked.reverse with
        ⟨inner, insideCallee, resultsEq, acceptsBody⟩
      simp only [tailCall, operands, ← length, List.take_left]
      refine ⟨rfl, store, inner, inner, inner.results, insideCallee, acceptsBody, ?_⟩
      rw [resultsEq]
      exact sameResults ▸ waiting

end Frames

/-- An indirect call through a table of functions goes to a function of its type, or it traps for a
reason of its own. -/
theorem indirectCallee_regular {table : Nat} {tableType : TableType} {operand : Value}
    {rest : List Value} (runs : m.Runs context)
    (declared : context.callTable? table = some tableType)
    (operands : m.frame.operands = operand :: rest)
    (typed : operand.HasType m.module tableType.index.valType) (type : FuncType) :
    Regular (fun callee => callee.type = type ∧ ∃ index, m.module.callee? index = some callee)
      (m.indirectCallee table type) := by
  simp only [Context.callTable?, Option.bind_eq_bind, Option.bind_eq_some_iff, Option.pure_def,
    Option.some.injEq, Option.guard_eq_some'] at declared
  rcases declared with ⟨_, declared, _, functions, rfl⟩
  rcases runs.table declared with ⟨elements, present, fits⟩
  rcases typed.exists_index with ⟨i, isIndex⟩
  simp only [indirectCallee, operands, present, isIndex, Option.bind_some]
  split
  · simp [Regular]
  · simp [Regular]
  · rename_i index got
    have element : (Value.ref (.func index)).HasType m.module .funcref := by
      rcases Option.ite_none_right_eq_some.mp got with ⟨_, same⟩
      have element := fits.elements.get i
      rwa [functions, Option.some.inj same] at element
    cases element with
    | func nullable found =>
        simp only [found]
        split
        · rename_i same
          exact ⟨same, index, found⟩
        · simp [Regular]

section Steps

variable (sound : m.module.Sound) (store : m.store.Typed m.module)
  (inside : m.frame.Inside m.module whole context results)
  (waiting : Awaited m.module final whole.results m.callers) {instr : Instr}
  {operands after : Operands}

include sound store inside waiting

/-- A well-typed instruction keeps the types, unless it is `unreachable`; the code that is left
accepts whatever validation found after it. -/
theorem exec_typed [Engine] (describes : operands.Describes m.module m.frame.operands)
    (checked : context.checkInstr instr operands = some after)
    (accepts : ∀ next, after.Describes m.module next →
      context.Accepts m.module results m.frame.code next)
    (reachable : instr ≠ .unreachable) : (m.exec instr).Typed m.module final := by
  have same := inside.surrounds.context_eq
  have within : context.Within m.module := by
    rw [same]
    exact inside.within.of_labels _
  have sameResults : context.results = whole.results := by rw [same]
  have runs : m.Runs context := by
    refine ⟨sound, within, store, ?_⟩
    rw [same]
    exact inside.locals
  have plain : ∀ {type : FuncType}, instr.stays = true →
      context.plainType? instr = some type → operands.apply type = some after →
        (m.exec instr).Typed m.module final := by
    intro type stays typed applied
    rcases describes.apply applied with ⟨front, rest, equal, stacked, describesAfter⟩
    refine typed_of_delivers inside waiting (exec_delivers runs equal stacked typed stays) ?_
    intro next typedNext
    exact accepts _ (describesAfter next typedNext)
  cases instr with
  | unreachable => exact absurd rfl reachable
  | block type body =>
      simp only [Context.checkInstr, Option.ite_none_right_eq_some] at checked
      rcases describes.apply checked.2 with ⟨front, rest, equal, stacked, describesAfter⟩
      have entered := block_typed store inside waiting stacked checked.1 fun next typed =>
        accepts _ (describesAfter next typed)
      rw [← equal] at entered
      exact entered
  | loop type body =>
      simp only [Context.checkInstr, Option.ite_none_right_eq_some] at checked
      rcases describes.apply checked.2 with ⟨front, rest, equal, stacked, describesAfter⟩
      exact loop_typed store inside waiting equal stacked checked.1 fun next typed =>
        accepts _ (describesAfter next typed)
  | ite type thenBody elseBody =>
      simp only [Context.checkInstr, Option.ite_none_right_eq_some, Bool.and_eq_true,
        Option.bind_eq_some_iff] at checked
      rcases checked with ⟨⟨thenTyped, elseTyped⟩, popped, top, applied⟩
      rcases describes.pop top with ⟨value, middle, equal, typed, describesMiddle⟩
      rcases typed.exists_i32 with ⟨condition, rfl⟩
      rcases describesMiddle.apply applied with ⟨front, rest, rfl, stacked, describesAfter⟩
      have inner : type.isResult ((context.inside type.results).checkInstrs
          (if condition = 0 then elseBody else thenBody) type.entry) = true := by
        split
        · exact elseTyped
        · exact thenTyped
      simp only [exec, equal]
      exact block_typed store inside waiting stacked inner fun next typed =>
        accepts _ (describesAfter next typed)
  | br label =>
      simp only [Context.checkInstr, Option.bind_eq_bind, Option.bind_eq_some_iff] at checked
      rcases checked with ⟨types, known, popped, taken, _⟩
      rcases describes.popAll taken with ⟨front, rest, equal, stacked, _⟩
      exact branch_typed store inside waiting known equal stacked
  | brIf label =>
      simp only [Context.checkInstr, Option.bind_eq_bind, Option.bind_eq_some_iff] at checked
      rcases checked with ⟨popped, top, types, known, applied⟩
      rcases describes.pop top with ⟨value, middle, equal, typed, describesMiddle⟩
      rcases typed.exists_i32 with ⟨condition, rfl⟩
      rcases describesMiddle.apply applied with ⟨front, rest, rfl, stacked, describesAfter⟩
      simp only [exec, equal]
      split
      · exact ⟨rfl, store, whole, context, results, inside.moved _ _,
          accepts _ (describesAfter front stacked), waiting⟩
      · exact branch_typed (m := m.withOperands (front ++ rest)) store (inside.moved _ _) waiting
          known rfl stacked
  | brTable labels otherwise =>
      rcases Context.branchTable_describes describes checked with ⟨index, middle, equal, all⟩
      have listed : labels.getD index.toNat otherwise = otherwise ∨
          labels.getD index.toNat otherwise ∈ labels := by
        simp only [Array.getD]
        split
        · exact .inr (Array.getElem_mem _)
        · exact .inl rfl
      rcases all _ listed with ⟨types, front, rest, known, rfl, stacked⟩
      simp only [exec, equal]
      exact branch_typed (m := m.withOperands (front ++ rest)) store (inside.moved _ _) waiting
        known
        rfl stacked
  | ret =>
      simp only [Context.checkInstr, Option.bind_eq_bind, Option.bind_eq_some_iff] at checked
      rcases checked with ⟨popped, taken, _⟩
      rcases describes.popAll taken with ⟨front, rest, equal, stacked, _⟩
      rw [sameResults] at stacked
      exact ret_typed store waiting inside.arity_eq equal stacked
  | call func =>
      simp only [Context.checkInstr, Context.plainType?, within.funcs, Option.bind_eq_bind,
        Option.bind_eq_some_iff] at checked
      rcases checked with ⟨_, declared, applied⟩
      rcases m.module.exists_callee declared with ⟨callee, found, rfl⟩
      rcases describes.apply applied with ⟨front, rest, equal, stacked, describesAfter⟩
      simp only [exec, found]
      exact call_typed store inside waiting sound found equal stacked fun next typed =>
        accepts _ (describesAfter next typed)
  | callIndirect table type =>
      simp only [Context.checkInstr, Context.plainType?, Option.bind_eq_bind,
        Option.bind_eq_some_iff, Option.pure_def, Option.some.injEq] at checked
      rcases checked with ⟨_, ⟨tableType, declared, rfl⟩, applied⟩
      rcases describes.apply applied with ⟨taken, rest, equal, stacked, describesAfter⟩
      rcases stacked_concat_iff.mp stacked with ⟨operand, front, rfl, typed, arguments⟩
      have regular := indirectCallee_regular runs declared equal typed type
      simp only [exec, callIndirect]
      cases found : m.indirectCallee table type with
      | error trap =>
          rw [found] at regular
          exact regular
      | ok callee =>
          rw [found] at regular
          rcases regular with ⟨rfl, index, present⟩
          simp only [equal, List.cons_append, List.tail_cons, Bool.false_eq_true, if_false]
          exact call_typed (m := m.withOperands (front ++ rest)) store (inside.moved _ _) waiting
            sound present rfl arguments fun next typed => accepts _ (describesAfter next typed)
  | returnCall func =>
      simp only [Context.checkInstr, Context.tailCall, within.funcs, Option.bind_eq_bind,
        Option.bind_eq_some_iff, Option.guard_eq_some'] at checked
      rcases checked with ⟨_, declared, _, returns, popped, taken, _⟩
      rcases m.module.exists_callee declared with ⟨callee, found, rfl⟩
      rcases describes.popAll taken with ⟨front, rest, equal, stacked, _⟩
      simp only [exec, found]
      exact tailCall_typed store inside waiting sound found equal stacked
        (returns.trans sameResults)
  | returnCallIndirect table type =>
      simp only [Context.checkInstr, Context.tailCall, Option.bind_eq_bind,
        Option.bind_eq_some_iff, Option.guard_eq_some'] at checked
      rcases checked with ⟨tableType, declared, _, returns, popped, taken, _⟩
      rcases describes.popAll taken with ⟨all, rest, equal, stacked, _⟩
      rcases stacked_concat_iff.mp stacked with ⟨operand, front, rfl, typed, arguments⟩
      have regular := indirectCallee_regular runs declared equal typed type
      simp only [exec, callIndirect]
      cases found : m.indirectCallee table type with
      | error trap =>
          rw [found] at regular
          exact regular
      | ok callee =>
          rw [found] at regular
          rcases regular with ⟨rfl, index, present⟩
          simp only [equal, List.cons_append, List.tail_cons, if_true]
          exact tailCall_typed (m := m.withOperands (front ++ rest)) store (inside.moved _ _)
            waiting sound present rfl arguments (returns.trans sameResults)
  | drop =>
      simp only [Context.checkInstr, Option.bind_eq_bind, Option.bind_eq_some_iff, Prod.exists]
        at checked
      rcases checked with ⟨found, popped, top, rest⟩
      cases rest
      rcases describes.popAny top with ⟨_, value, rest, _, equal, _, describesRest⟩
      simp only [exec, equal, List.tail_cons]
      exact ⟨rfl, store, whole, context, results, inside.moved _ _, accepts _ describesRest,
        waiting⟩
  | select type =>
      rcases Context.select_describes describes checked with
        ⟨condition, second, first, rest, equal, describesFirst, describesSecond⟩
      simp only [exec, equal]
      refine ⟨rfl, store, whole, context, results, inside.moved _ _, accepts _ ?_, waiting⟩
      simp only [withOperands]
      split
      · exact describesSecond
      · exact describesFirst
  | refIsNull =>
      rcases Context.isNull_describes describes checked with ⟨value, rest, equal, describesAfter⟩
      simp only [exec, equal]
      exact ⟨rfl, store, whole, context, results, inside.moved _ _, accepts _ (describesAfter _),
        waiting⟩
  | _ =>
      simp only [Context.checkInstr, Option.bind_eq_bind, Option.bind_eq_some_iff] at checked
      rcases checked with ⟨type, typed, applied⟩
      exact plain rfl typed applied

end Steps

/-- A step keeps the types and meets nothing that validation rules out. It traps as `unreachable`
only at the instruction of that name. -/
theorem step_typed [Engine] (sound : m.module.Sound) (typed : m.Typed m.module final) :
    m.step.Typed m.module final ∨ ∃ code, m.frame.code = .unreachable :: code := by
  rcases typed with ⟨_, store, whole, context, results, inside, accepts, waiting⟩
  cases code_eq : m.frame.code with
  | nil =>
      rw [code_eq] at accepts
      simp only [step, code_eq]
      exact .inl (leave_typed store inside waiting accepts)
  | cons instr code =>
      by_cases reachable : instr = .unreachable
      · exact .inr ⟨code, by rw [reachable]⟩
      · rw [code_eq] at accepts
        rcases accepts.cons with ⟨operands, after, describes, checked, rest⟩
        simp only [step, code_eq]
        exact .inl (exec_typed (m := { m with frame := { m.frame with code } }) sound store
          (inside.moved _ _) waiting describes checked rest reachable)

end Machine

end WasmHost
