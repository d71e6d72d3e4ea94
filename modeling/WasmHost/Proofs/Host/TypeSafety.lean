import Mathlib
import WasmHost.Proofs.Binary.Decoding
import WasmHost.Proofs.Host.EntryPoint
import WasmHost.Proofs.Host.Failure
import WasmHost.Proofs.Host.MemoryGrowth
import WasmHost.Proofs.Machine.Soundness

/-!
# Type safety of runs

A store that is made for a valid module is as the module declares it, and code that is run on it
keeps it so. Therefore a call ends as a call of valid code can end: it returns results of the types
of its function, or it is aborted by a trap that the code itself gives rise to, or by a sink that
has refused a number. The cases in which the machine or the host would not know how to go on do not
arise.
-/

namespace WasmHost

open Instantiation

section Modules

variable {m : Module} {bytes : ByteArray}

theorem Module.sound_of_load? (loaded : load? bytes = some m) : m.Sound := by
  have valid := isValid_of_load? loaded
  simp only [isValid, Bool.and_eq_true, List.all_eq_true] at valid
  simp only [load?, Option.bind_eq_bind, Option.bind_eq_some_iff] at loaded
  rcases loaded with ⟨other, decoded, _, _, same⟩
  cases same
  rcases refTables_and_dataCount_of_decode decoded with ⟨refTables, dataCount⟩
  refine ⟨?_, refTables, dataCount⟩
  intro func present
  exact valid.2 func (by simpa using present)

/-- What validation has checked of the parts that a store is made from. -/
structure Module.Checked (m : Module) : Prop where
  globals : ∀ global ∈ m.globals.toList, m.checkGlobal m.context global = true
  elems : ∀ segment ∈ m.elems.toList, m.checkElem m.context segment = true
  start : ∀ index, m.start = some index → checkStart m.context index = true

theorem Module.checked_of_load? (loaded : load? bytes = some m) : m.Checked := by
  have valid := isValid_of_load? loaded
  simp only [isValid, Bool.and_eq_true] at valid
  refine ⟨List.all_eq_true.mp valid.1.1.1.1.1.1.1.2, List.all_eq_true.mp valid.1.1.2, ?_⟩
  intro index named
  have starts := valid.1.1.1.2
  rw [named] at starts
  exact starts

/-- The start function takes nothing. -/
theorem LinkedModule.params_of_start {m : LinkedModule} (checked : m.Checked) {func : Func}
    (named : m.start.bind m.callee? = some (.defined func)) : func.type.params = [] := by
  rcases Option.bind_eq_some_iff.mp named with ⟨index, isStart, found⟩
  have declared : m.funcTypes[index]? = some {} := of_decide_eq_true (checked.start index isStart)
  have same := m.funcTypes_of_callee? found
  rw [declared, Option.some.injEq] at same
  exact (congrArg FuncType.params same).symm

end Modules

section Constants

variable {m : LinkedModule} {globals : Array Value} {items : ConstExpr} {type : ValType}
  {value : Value}

/-- A constant instruction adds a value of its type, or replaces its operands by one. -/
theorem constValue?_typed (checked : m.checkConst m.context type items = true)
    (evaluated : constValue? globals items = some value) : value.HasType m type := by
  have walk : ∀ (items : ConstExpr) (operands last : Operands) (stack : List Value),
      operands.Describes m stack → items.foldlM (fun operands item => do
        let type ← m.context.constType? m.importedGlobals.length item
        operands.apply type) operands = some last → last.finishes [type] = true →
          constValue?.go globals stack items = some value → value.HasType m type := by
    intro items
    induction items with
    | nil =>
        intro operands last stack describes folded finished evaluated
        cases folded
        rcases stacked_singleton_iff.mp (describes.finishes finished) with ⟨top, rfl, typed⟩
        cases evaluated
        exact typed
    | cons item rest ih =>
        intro operands last stack describes folded finished evaluated
        simp only [List.foldlM_cons, Option.bind_eq_bind, Option.bind_eq_some_iff] at folded
        rcases folded with ⟨middle, ⟨itemType, typed, applied⟩, folded⟩
        rcases describes.apply applied with ⟨front, below, rfl, stacked, describesMiddle⟩
        have pushed : ∀ {constant : Value} {constantType : ValType},
            constant.HasType m constantType → itemType = ⟨[], [constantType]⟩ →
              constValue?.go globals (constant :: (front ++ below)) rest = some value →
                value.HasType m type := by
          rintro constant constantType typedConstant rfl evaluated
          cases stacked_nil_iff.mp stacked
          exact ih middle last (constant :: below) (describesMiddle [constant]
            (stacked_singleton_iff.mpr ⟨constant, rfl, typedConstant⟩)) folded finished evaluated
        cases item with
        | value constant =>
            simp only [constValue?.go] at evaluated
            cases constant with
            | i32 bits => exact pushed (.i32 bits) (Option.some.inj typed).symm evaluated
            | i64 bits => exact pushed (.i64 bits) (Option.some.inj typed).symm evaluated
            | f32 bits => exact pushed (.f32 bits) (Option.some.inj typed).symm evaluated
            | f64 bits => exact pushed (.f64 bits) (Option.some.inj typed).symm evaluated
            | v128 bits => simp [Context.constType?, Context.plainType?] at typed
            | ref reference => simp [Context.constType?, Context.plainType?] at typed
        | null heap =>
            simp only [constValue?.go] at evaluated
            exact pushed (.null true heap) (Option.some.inj typed).symm evaluated
        | func index =>
            simp only [constValue?.go] at evaluated
            simp only [Context.constType?, Option.bind_eq_bind, Option.bind_eq_some_iff,
              Option.pure_def, Option.some.injEq] at typed
            rcases typed with ⟨funcType, declared, same⟩
            rcases m.exists_callee declared with ⟨callee, found, _⟩
            exact pushed (.func true found) same.symm evaluated
        | global index =>
            -- no global is imported, so none is known to constant expressions
            simp [Context.constType?, m.importedGlobals_eq_nil] at typed
        | combine op =>
            cases typed
            have regular := NumOp.eval_regular stacked below
            simp only [constValue?.go] at evaluated
            cases combined : op.eval (front ++ below) with
            | error trap => simp [combined] at evaluated
            | ok after =>
                simp only [combined] at evaluated regular
                rcases regular with ⟨result, typedResult, rfl⟩
                exact ih middle last (result :: below) (describesMiddle [result]
                  (stacked_singleton_iff.mpr ⟨result, rfl, typedResult⟩)) folded finished evaluated
  simp only [Module.checkConst, Context.checkConst] at checked
  split at checked
  · rename_i last folded
    exact walk items {} last [] .empty folded checked evaluated
  · simp at checked

end Constants

section Stores

theorem Fulfilled.of_forall₂ {α β : Type} {fits : α → β → Prop} {declared : List α}
    {present : List β} (pairs : List.Forall₂ fits declared present) :
    Fulfilled fits declared.toArray present.toArray := by
  intro index item found
  rcases List.getElem?_eq_some_iff.mp (by simpa using found) with ⟨inRange, rfl⟩
  have inPresent : index < present.length := pairs.length_eq ▸ inRange
  exact ⟨present.get ⟨index, inPresent⟩, by simp [inPresent],
    (List.forall₂_iff_get.mp pairs).2 index inRange inPresent⟩

variable [Engine] {σ : Type} {host after : Host σ} {m : LinkedModule} {store filled : Store}

theorem evaluate_yields {globals : Array Value} {items : ConstExpr} {value : Value}
    (evaluated : (evaluate globals items).Yields host value after) :
    constValue? globals items = some value := by
  simp only [evaluate] at evaluated
  split at evaluated
  · rename_i other found
    simp only [HostM.Yields, HostM.outcome_pure, Prod.mk.injEq, Except.ok.injEq] at evaluated
    rw [found, evaluated.1]
  · simp [HostM.Yields, Instantiation.trap] at evaluated

theorem makeRef_yields {globals : Array Value} {items : ConstExpr} {ref : Ref}
    (made : (makeRef globals items).Yields host ref after) :
    constValue? globals items = some (.ref ref) := by
  rcases HostM.bind_yields_iff.mp made with ⟨value, middle, evaluated, made⟩
  split at made
  · simp only [HostM.Yields, HostM.outcome_pure, Prod.mk.injEq, Except.ok.injEq] at made
    rw [← made.1]
    exact evaluate_yields evaluated
  · simp [HostM.Yields, Instantiation.trap] at made

theorem makeTable_eq {type : TableType} {table : Table}
    (made : (makeTable type).Yields host table after) : table = { type, size := type.minimum } := by
  simp only [makeTable, HostM.Yields, HostM.outcome_bind, HostM.outcome_get] at made
  split at made
  · split at made
    · simp only [HostM.outcome_pure, Prod.mk.injEq, Except.ok.injEq] at made
      exact made.1.symm
    · simp at made
  · simp at made

theorem makeGlobals_typed {globals : List Global} {values result : Array Value}
    (checked : ∀ global ∈ globals, m.checkGlobal m.context global = true)
    (made : (makeGlobals globals values).Yields host result after) :
    ∃ new, result = values ++ new.toArray ∧
      List.Forall₂ (fun (global : Global) value => value.HasType m global.type.type) globals
        new := by
  induction globals generalizing values host with
  | nil =>
      simp only [makeGlobals, HostM.Yields, HostM.outcome_pure, Prod.mk.injEq,
        Except.ok.injEq] at made
      exact ⟨[], by simp [made.1], .nil⟩
  | cons global rest ih =>
      rcases HostM.bind_yields_iff.mp made with ⟨value, middle, evaluated, made⟩
      rw [List.forall_mem_cons] at checked
      rcases ih checked.2 made with ⟨new, rfl, typed⟩
      refine ⟨value :: new, by simp, .cons ?_ typed⟩
      exact constValue?_typed checked.1 (evaluate_yields evaluated)

/-- The items of a segment are references of its type. -/
theorem makeRefs_typed {segment : ElemSegment} {globals : Array Value}
    {refs : List Ref} (checked : segment.items.all (m.checkConst m.context segment.type) = true)
    (made : (segment.items.mapM (makeRef globals)).Yields host refs after) :
    ∀ ref ∈ refs, (Value.ref ref).HasType m segment.type := by
  have pairs := HostM.forall₂_of_mapM_yields made
  clear made
  generalize segment.items = items at checked pairs
  induction pairs with
  | nil => simp
  | cons first _ ih =>
      rcases first with ⟨before, later, madeFirst⟩
      rw [List.all_cons, Bool.and_eq_true] at checked
      exact List.forall_mem_cons.mpr
        ⟨constValue?_typed checked.1 (makeRef_yields madeFirst), ih checked.2⟩

/-- Segments that are copied have the type of the elements that they replace. -/
theorem copyElems_typed (sound : m.Sound) {segments : List ElemSegment}
    (checked : ∀ segment ∈ segments, m.checkElem m.context segment = true)
    (copied : (copyElems segments store).Yields host filled after)
    (tables : Fulfilled (Table.Fits m) m.tables store.tables) :
    Fulfilled (Table.Fits m) m.tables filled.tables ∧
      ∃ new, filled.elems = store.elems ++ new.toArray ∧
        List.Forall₂ (fun (segment : ElemSegment) (items : Array Ref) => ∀ ref ∈ items,
          (Value.ref ref).HasType m segment.type) segments new := by
  induction segments generalizing store host with
  | nil =>
      simp only [copyElems, HostM.Yields, HostM.outcome_pure, Prod.mk.injEq,
        Except.ok.injEq] at copied
      rw [← copied.1]
      exact ⟨tables, [], by simp, .nil⟩
  | cons segment rest ih =>
      simp only [copyElems] at copied
      rcases HostM.bind_yields_iff.mp copied with ⟨refs, middle, made, copied⟩
      rw [List.forall_mem_cons, Module.checkElem, Bool.and_eq_true] at checked
      rcases checked with ⟨⟨itemsChecked, placed⟩, checkedRest⟩
      have typedRefs := makeRefs_typed itemsChecked made
      have emptied : ∀ ref ∈ (#[] : Array Ref), (Value.ref ref).HasType m segment.type := by simp
      split at copied
      · rcases ih checkedRest copied tables with ⟨kept, new, appended, typed⟩
        exact ⟨kept, refs.toArray :: new, by simp [appended],
          .cons (by simpa using typedRefs) typed⟩
      · rcases ih checkedRest copied tables with ⟨kept, new, appended, typed⟩
        exact ⟨kept, #[] :: new, by simp [appended], .cons emptied typed⟩
      · rename_i target place active
        rcases HostM.bind_yields_iff.mp copied with ⟨offset, later, _, copied⟩
        simp only [active] at placed
        split at copied
        · have written : Fulfilled (Table.Fits m) m.tables
              (store.updateTable target fun table => table.write offset refs.toArray.size
                fun i => refs.toArray[i]?.getD .null).tables := by
            refine tables.modify ?_
            intro type table declared fits
            have inContext : m.context.tables[target]? = some type := by
              rw [m.within.tables, declared]
            simp only [inContext, Bool.and_eq_true, decide_eq_true_eq] at placed
            refine ⟨fits.type_eq, fits.elements.write _ _ ?_⟩
            intro i
            cases item : refs.toArray[i]? with
            | none => exact .ofNull (sound.elements type (Array.mem_of_getElem? declared))
            | some ref =>
                rw [placed.1]
                exact typedRefs ref (by simpa using Array.mem_of_getElem? item)
          rcases ih checkedRest copied written with ⟨kept, new, appended, typed⟩
          refine ⟨kept, #[] :: new, ?_, .cons emptied typed⟩
          rw [appended]
          simp [Store.updateTable]
        · simp [HostM.Yields, Instantiation.trap] at copied

theorem copyDatas_size {segments : List DataSegment}
    (copied : (copyDatas segments store).Yields host filled after) :
    filled.datas.size = store.datas.size + segments.length := by
  induction segments generalizing store host with
  | nil =>
      simp only [copyDatas, HostM.Yields, HostM.outcome_pure, Prod.mk.injEq,
        Except.ok.injEq] at copied
      simp [copied.1]
  | cons segment rest ih =>
      simp only [copyDatas] at copied
      split at copied
      · simp [ih copied, Nat.add_comm, Nat.add_left_comm]
      · simp [ih copied, Nat.add_comm, Nat.add_left_comm]
      · rcases HostM.bind_yields_iff.mp copied with ⟨offset, later, _, copied⟩
        split at copied
        · simp [ih copied, Store.updateMemory, Nat.add_comm, Nat.add_left_comm]
        · simp [HostM.Yields, Instantiation.trap] at copied

/-- The store of a valid module is as the module declares it. -/
theorem makeStore_typed (sound : m.Sound) (checked : m.Checked)
    (made : (makeStore m.toModule).Yields host store after) : store.Typed m := by
  rcases HostM.bind_yields_iff.mp made with ⟨_, heaped, _, made⟩
  rcases HostM.bind_yields_iff.mp made with ⟨memories, _, madeMemories, made⟩
  rcases HostM.bind_yields_iff.mp made with ⟨tables, _, madeTables, made⟩
  rcases HostM.bind_yields_iff.mp made with ⟨globals, _, madeGlobals, made⟩
  rcases HostM.bind_yields_iff.mp made with ⟨filled, _, copiedElems, copiedDatas⟩
  have memoriesTyped : Fulfilled (fun type memory => memory.type = type) m.memories
      memories.toArray := by
    refine .of_forall₂ (List.Forall₂.imp ?_ (HostM.forall₂_of_mapM_yields madeMemories))
    rintro type memory ⟨_, _, madeOne⟩
    rw [makeMemory_eq madeOne]
  have tablesTyped : Fulfilled (Table.Fits m) m.tables tables.toArray := by
    intro index type declared
    have isRef := sound.elements type (Array.mem_of_getElem? declared)
    have pairs : Fulfilled (fun (type : TableType) table => table = { type, size := type.minimum })
        m.tables tables.toArray := by
      refine .of_forall₂ (List.Forall₂.imp ?_ (HostM.forall₂_of_mapM_yields madeTables))
      rintro type table ⟨_, _, madeOne⟩
      exact makeTable_eq madeOne
    rcases pairs index type declared with ⟨_, present, rfl⟩
    exact ⟨_, present, rfl, .of_rest (.ofNull isRef)⟩
  rcases makeGlobals_typed checked.globals madeGlobals with ⟨values, rfl, globalsTyped⟩
  rcases copyElems_typed sound checked.elems copiedElems tablesTyped with
    ⟨filledTables, elems, filledElems, elemsTyped⟩
  have keptByElems : filled.memories = memories.toArray ∧
      filled.globals = #[] ++ values.toArray := by
    apply copyElems_invariant _ _ copiedElems ⟨rfl, rfl⟩
    · intro other elems same
      exact same
    · intro other target start n value same
      exact same
  have keptByDatas : Fulfilled (fun type memory => memory.type = type) m.memories store.memories ∧
      store.tables = filled.tables ∧ store.globals = filled.globals ∧
      store.elems = filled.elems := by
    apply copyDatas_invariant _ _ copiedDatas ⟨keptByElems.1 ▸ memoriesTyped, rfl, rfl, rfl⟩
    · intro other datas same
      exact same
    · rintro other target memory start n value _ _ ⟨typed, same⟩
      exact ⟨typed.modify fun _ _ _ kept => kept, same⟩
  rcases keptByDatas with ⟨memoriesKept, sameTables, sameGlobals, sameElems⟩
  refine ⟨memoriesKept, sameTables ▸ filledTables, ?_, ?_, ?_⟩
  · rw [sameGlobals, keptByElems.2, Array.empty_append]
    exact .of_forall₂ globalsTyped
  · rw [sameElems, filledElems, Array.empty_append]
    exact .of_forall₂ elemsTyped
  · intro index segment declared
    have inRange : index < store.datas.size := by
      rw [copyDatas_size copiedDatas, Array.length_toList]
      exact Nat.lt_add_left _ (Array.getElem?_eq_some_iff.mp declared).1
    exact ⟨_, Array.getElem?_eq_getElem inRange, trivial⟩

end Stores

section Runs

variable {σ : Type} {module : LinkedModule} {final : List ValType}

/-- The run is aborted in its next step, by a trap or by a sink that refuses a number. The trap for
unreachable code comes from the instruction of that name. -/
inductive Run.Aborts [Engine] [Sink σ] (run : Run σ) : Abort → Prop
  | trap {machine : Machine} {reason : Trap} (stepped : run.machine.step = .trap machine reason)
      (genuine : reason = .unreachable → ∃ code, run.machine.frame.code = .unreachable :: code) :
      Aborts run (.trap reason)
  | sink {machine : Machine} {value : UInt32} {fault : IoError} {sink : σ}
      (stepped : run.machine.step = .emit machine value)
      (refused : Sink.emit run.host.sink value.toInt32 = (some fault, sink)) :
      Aborts run (.sink fault)

/-- A call that goes on is as validation expects it. One that has returned has left a store and
results as they are declared. -/
def Progress.Typed (module : LinkedModule) (final : List ValType) : Progress σ → Prop
  | running run => run.machine.Typed module final
  | ended run (.returned results) =>
      run.machine.store.Typed module ∧ List.Forall₂ (Value.HasType module) results final
  | ended _ _ => True

namespace Run

theorem growMemory_typed [Engine] (host : Host σ) {machine : Machine} {memory : Memory}
    {index pages : Nat} (present : machine.store.memories[index]? = some memory)
    (typed : ∀ value, value.HasType module memory.type.index.valType →
      (machine.push value).Typed module final) :
    (growMemory host machine index pages).Typed module final ∧
      ∀ last abort, growMemory host machine index pages ≠ .ended last (.aborted abort) := by
  simp only [growMemory, present]
  split
  · exact ⟨typed _ (.ofIndex _ _), by simp⟩
  · split
    · exact ⟨trivial, by simp⟩
    · exact ⟨typed _ (.minusOne _), by simp⟩
    · split
      · refine ⟨?_, by simp⟩
        have pushed := typed _ (.ofIndex memory.type.index memory.pages)
        exact pushed.withStore (pushed.store.updateMemory fun _ => rfl)
      · exact ⟨typed _ (.minusOne _), by simp⟩

theorem growTable_typed [Engine] (host : Host σ) {machine : Machine} {table : Table}
    {index n : Nat} {ref : Ref} (present : machine.store.tables[index]? = some table)
    (element : (Value.ref ref).HasType module table.type.element)
    (typed : ∀ value, value.HasType module table.type.index.valType →
      (machine.push value).Typed module final) :
    (growTable host machine index n ref).Typed module final ∧
      ∀ last abort, growTable host machine index n ref ≠ .ended last (.aborted abort) := by
  simp only [growTable, present]
  split
  · exact ⟨typed _ (.ofIndex _ _), by simp⟩
  · split
    · refine ⟨?_, by simp⟩
      have pushed := typed _ (.ofIndex table.type.index table.size)
      refine pushed.withStore (pushed.store.updateTable ?_)
      intro type grown declared fits
      rcases pushed.store.tables index type declared with ⟨other, there, fitsOther⟩
      cases there.symm.trans present
      refine ⟨fits.type_eq, fits.elements.fill ?_ _ _⟩
      rw [← fitsOther.type_eq]
      exact element
    · exact ⟨typed _ (.minusOne _), by simp⟩

variable [Engine] [Sink σ]

/-- A step of the run keeps the types, and if it aborts the run, then for one of the proper
reasons. -/
theorem step_typed (sound : module.Sound) (run : Run σ) (typed : run.machine.Typed module final) :
    run.step.Typed module final ∧
      ∀ last abort, run.step = .ended last (.aborted abort) → run.Aborts abort := by
  have signal : run.machine.step.Typed module final ∨
      ∃ code, run.machine.frame.code = .unreachable :: code := by
    have same := typed.module_eq
    subst same
    exact Machine.step_typed sound typed
  rcases signal with signal | ⟨code, unreachable⟩
  · cases stepped : run.machine.step with
    | next machine =>
        rw [stepped] at signal
        simp only [step, stepped]
        exact ⟨signal, by simp⟩
    | done machine results =>
        rw [stepped] at signal
        simp only [step, stepped]
        exact ⟨signal, by simp⟩
    | trap machine reason =>
        rw [stepped] at signal
        simp only [step, stepped]
        refine ⟨trivial, ?_⟩
        rintro last abort ⟨⟩
        exact .trap stepped fun unreachable => absurd unreachable signal
    | emit machine value =>
        rw [stepped] at signal
        rw [step_of_emit stepped]
        rcases emitted : Sink.emit run.host.sink value.toInt32 with ⟨_ | fault, sink⟩
        · exact ⟨signal, by simp⟩
        · refine ⟨trivial, ?_⟩
          rintro last abort ⟨⟩
          exact .sink stepped emitted
    | growMemory machine index pages =>
        rw [stepped] at signal
        rcases signal with ⟨memory, present, pushed⟩
        simp only [step, stepped]
        rcases growMemory_typed run.host present pushed with ⟨kept, goes⟩
        exact ⟨kept, fun last abort aborted => absurd aborted (goes last abort)⟩
    | growTable machine index n ref =>
        rw [stepped] at signal
        rcases signal with ⟨table, present, element, pushed⟩
        simp only [step, stepped]
        rcases growTable_typed run.host present element pushed with ⟨kept, goes⟩
        exact ⟨kept, fun last abort aborted => absurd aborted (goes last abort)⟩
  · have stepped : ∃ machine, run.machine.step = .trap machine .unreachable := by
      simp only [Machine.step, unreachable, Machine.exec]
      exact ⟨_, rfl⟩
    rcases stepped with ⟨machine, stepped⟩
    simp only [step, stepped]
    refine ⟨trivial, ?_⟩
    rintro last abort ⟨⟩
    exact .trap stepped fun _ => ⟨code, unreachable⟩

theorem advance_typed (sound : module.Sound) (steps : Nat) (run : Run σ)
    (typed : run.machine.Typed module final) : (run.advance steps).Typed module final := by
  induction steps generalizing run with
  | zero => exact typed
  | succ steps ih =>
      have first := (run.step_typed sound typed).1
      simp only [advance]
      cases stepped : run.step with
      | running later =>
          rw [stepped] at first
          exact ih later first
      | ended later ending =>
          rw [stepped] at first
          exact first

end Run

/-- A function without parameters can be called on a store of its module. -/
theorem Machine.typed_ofCall {inst : Instance} (sound : inst.module.Sound)
    (store : inst.store.Typed inst.module) {func : Func} (present : func ∈ inst.module.funcs)
    (noParams : func.type.params = []) :
    (Machine.ofCall inst func).Typed inst.module func.type.results := by
  have noArgs : List.Forall₂ (Value.HasType inst.module) [] func.type.params := by
    rw [noParams]
    exact .nil
  rcases LinkedModule.inside_ofCall sound present noArgs with ⟨whole, inside, same, accepts⟩
  refine ⟨rfl, store, whole, whole, whole.results, inside, accepts, ?_⟩
  rw [same]
  exact .last

variable [Engine] [Sink σ] {host after : Host σ} {inst : Instance} {func : Func} {steps : Nat}

/-- A call of a function without parameters stays as validation expects it. -/
theorem callAfter_typed (sound : inst.module.Sound) (store : inst.store.Typed inst.module)
    (present : func ∈ inst.module.funcs) (noParams : func.type.params = []) (steps : Nat)
    (host : Host σ) : (callAfter steps host inst func).Typed inst.module func.type.results :=
  Run.advance_typed sound steps ⟨host, .ofCall inst func⟩
    (Machine.typed_ofCall sound store present noParams)

/-- A call that is aborted comes to a step in which it is, for one of the proper reasons. -/
theorem exists_aborts_of_callAfter (sound : inst.module.Sound)
    (store : inst.store.Typed inst.module) (present : func ∈ inst.module.funcs)
    (noParams : func.type.params = []) {last : Run σ} {abort : Abort}
    (ended : callAfter steps host inst func = .ended last (.aborted abort)) :
    ∃ before run, callAfter before host inst func = .running run ∧
      run.step = .ended last (.aborted abort) ∧ run.Aborts abort := by
  rcases Run.exists_step_of_ended ended with ⟨before, run, reached, step⟩
  have reached : callAfter before host inst func = .running run := reached
  have typed := callAfter_typed sound store present noParams before host
  rw [reached] at typed
  exact ⟨before, run, reached, step, (run.step_typed sound typed).2 last abort step⟩

/-- The start function leaves the store as the module declares it. -/
theorem start_typed {changed : Instance} (starts : (start steps inst).Yields host changed after)
    (sound : inst.module.Sound) (checked : inst.module.Checked)
    (store : inst.store.Typed inst.module) : changed.store.Typed inst.module := by
  rcases start_yields starts with ⟨func, run, results, named, ended, rfl, _⟩ | ⟨rfl, _⟩
  · rcases Option.bind_eq_some_iff.mp named with ⟨index, _, found⟩
    have called := callAfter_typed sound store (LinkedModule.mem_funcs_of_callee? found)
      (LinkedModule.params_of_start checked named) steps host
    rw [ended] at called
    exact called.1
  · exact store

/-- An instance of a module is as the module declares it, whatever its start function has done. -/
theorem instantiate_typed {limits : ResourceLimits} {bytes : ByteArray}
    (instantiated : (instantiate steps limits bytes).Yields host inst after) :
    inst.module.Sound ∧ inst.store.Typed inst.module := by
  rcases instantiate_yields_iff.mp instantiated with
    ⟨m, linked, store, admitted, ready, started, loaded, admits, made, starts, rfl⟩
  have same := (admission_yields admits).module
  rw [← same] at loaded made
  have sound := Module.sound_of_load? loaded
  have checked := Module.checked_of_load? loaded
  have typed := start_typed starts sound checked (makeStore_typed sound checked made)
  rcases start_yields starts with ⟨_, _, _, _, _, rfl, _⟩ | ⟨rfl, _⟩ <;> exact ⟨sound, typed⟩

end Runs

end WasmHost
