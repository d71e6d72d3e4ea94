import Mathlib
import WasmHost.Proofs.Host.TypeSafety

/-!
# The resolution of entry points

The entry point is looked up after code may have run, but the answer was settled before. It is read
off the exports and types of the module. This file gives the three answers, proves that one of them
applies to each name, and that the look-up gives it whatever has been executed.

Names of exports are unique in a valid module, so what an export says of a name is all that is said
of it. A function that is imported can be exported again, but it has a parameter. A memory that is
exported is never shared, because a module with a shared memory is not instantiated.

The call of the entry point is checked for the numbers of its arguments and results only when it is
made. The look-up has seen to both, so the check is passed, and since code is type safe the results
are as many as there are places for them.
-/

namespace WasmHost

open Instantiation

variable {σ : Type}

/-- What is exported under the name is no entry point, and this is how it is described. -/
inductive Module.Unfit (m : Module) (name : String) : (found : String) → Prop
  | params {index : Nat} {type : FuncType} (exported : ⟨name, .func index⟩ ∈ m.exports)
      (declared : m.funcTypes[index]? = some type) (takes : type.params ≠ []) :
      Unfit m name type.text
  | table {index : Nat} (exported : ⟨name, .table index⟩ ∈ m.exports) :
      Unfit m name "a table export"
  | memory {index : Nat} (exported : ⟨name, .memory index⟩ ∈ m.exports) :
      Unfit m name "a memory export"
  | global {index : Nat} (exported : ⟨name, .global index⟩ ∈ m.exports) :
      Unfit m name "a global export"

section Answers

variable {bytes : ByteArray} {name : String}

/-- Either an entry point is exported under a name, or nothing at all, or something else. -/
theorem Module.enters_or_absent_or_unfit {m : Module} (loaded : load? bytes = some m)
    (name : String) :
    (∃ type, m.Enters name type) ∨ (∀ item ∈ m.exports, item.name ≠ name) ∨
      ∃ found, m.Unfit name found := by
  by_cases absent : ∀ item ∈ m.exports, item.name ≠ name
  · exact .inr (.inl absent)
  push Not at absent
  rcases absent with ⟨⟨_, kind⟩, exported, rfl⟩
  cases kind with
  | func index =>
      have inRange : index < m.funcTypes.size := by
        have valid := isValid_of_load? loaded
        simp only [isValid, Bool.and_eq_true] at valid
        have refers := List.all_eq_true.mp valid.1.1.1.1.1.1.2 _ (by simpa using exported)
        exact of_decide_eq_true refers
      have declared : m.funcTypes[index]? = some m.funcTypes[index] := by
        rw [Array.getElem?_eq_getElem inRange]
      by_cases noParams : m.funcTypes[index].params = []
      · exact .inl ⟨_, exported, declared, noParams⟩
      · exact .inr (.inr ⟨_, .params exported declared noParams⟩)
  | table index => exact .inr (.inr ⟨_, .table exported⟩)
  | memory index => exact .inr (.inr ⟨_, .memory exported⟩)
  | global index => exact .inr (.inr ⟨_, .global exported⟩)

variable {m : LinkedModule}

theorem LinkedModule.EntryPoint.resolves {func : Func} (found : m.EntryPoint name func)
    (store : Store) (host : Host σ) :
    ∃ entry, entry.name = name ∧ entry.func = func ∧
      (resolveEntry name ⟨m, store⟩).Yields host entry
        (host.record (.entryResolved name func.type)) := by
  rcases found with ⟨exported, isFunc, defined, noParams⟩
  refine ⟨⟨name, func, func.type.results.length, noParams, rfl⟩, rfl, rfl, ?_⟩
  simp only [resolveEntry, exported, isFunc, defined, noParams, dif_pos]
  rfl

theorem resolveEntry_of_absent (absent : ∀ item ∈ m.exports, item.name ≠ name) (store : Store)
    (host : Host σ) :
    (resolveEntry name ⟨m, store⟩).Stops host (.failed (.entryNotFound name)) host := by
  have missing : m.export? name = none := by
    rw [Module.export?, List.find?_eq_none]
    intro item item_mem
    simpa using absent item (by simpa using item_mem)
  simp only [resolveEntry, missing]
  rfl

variable (loaded : Module.load? bytes = some m.toModule)

include loaded

theorem resolveEntry_of_kind {kind : ExportKind} (exported : ⟨name, kind⟩ ∈ m.exports)
    (other : ∀ index, kind ≠ .func index) (store : Store) (host : Host σ) :
    (resolveEntry name ⟨m, store⟩).Stops host
      (.failed (.entryMismatch name ("a " ++ kind.text m.toModule ++ " export"))) host := by
  have found : m.export? name = some ⟨name, kind⟩ := Module.export?_eq_some_of_mem loaded exported
  simp only [resolveEntry, found]
  cases kind with
  | func index => exact absurd rfl (other index)
  | table index => rfl
  | memory index => rfl
  | global index => rfl

/-- What is no entry point is described as such. -/
theorem resolveEntry_of_unfit (unshared : ∀ type ∈ m.memories, type.shared = false) {found : String}
    (unfit : m.Unfit name found) (store : Store) (host : Host σ) :
    (resolveEntry name ⟨m, store⟩).Stops host (.failed (.entryMismatch name found)) host := by
  cases unfit with
  | @params index type exported declared takes =>
      have found : m.export? name = some ⟨name, .func index⟩ :=
        Module.export?_eq_some_of_mem loaded exported
      rcases m.exists_callee declared with ⟨func | func, bound, rfl⟩
      · simp only [resolveEntry, found, bound]
        rfl
      · have params : func.type.params ≠ [] := takes
        simp only [resolveEntry, found, bound, params, dif_neg, not_false_eq_true]
        rfl
  | table exported => exact resolveEntry_of_kind loaded exported (by simp) store host
  | @memory index exported =>
      have kind : ExportKind.text m.toModule (.memory index) = "memory" := by
        have notShared : (m.memoryTypes[index]?).any (·.shared) = false := by
          rw [m.memoryTypes_eq]
          cases present : m.memories[index]? with
          | none => rfl
          | some type => exact unshared type (Array.mem_of_getElem? present)
        simp [ExportKind.text, notShared]
      have stops := resolveEntry_of_kind loaded exported (by simp) store host
      rw [kind] at stops
      exact stops
  | global exported => exact resolveEntry_of_kind loaded exported (by simp) store host

theorem LinkedModule.exists_entryPoint_iff :
    (∃ func, m.EntryPoint name func) ↔ ∃ index type, ⟨name, .func index⟩ ∈ m.exports ∧
      m.funcTypes[index]? = some type ∧ type.params = [] := by
  constructor
  · rintro ⟨func, entry⟩
    rcases (LinkedModule.enters_iff loaded).mpr ⟨func, entry, rfl⟩ with
      ⟨exported, declared, noParams⟩
    exact ⟨_, func.type, exported, declared, noParams⟩
  · rintro ⟨index, type, exported, declared, noParams⟩
    rcases (LinkedModule.enters_iff loaded).mp ⟨exported, declared, noParams⟩ with ⟨func, entry, _⟩
    exact ⟨func, entry⟩

/-- One of the three answers is given. -/
theorem resolveEntry_answers (unshared : ∀ type ∈ m.memories, type.shared = false) (name : String)
    (store : Store) (host : Host σ) :
    (∃ entry resolved, (resolveEntry name ⟨m, store⟩).Yields host entry resolved) ∨
      ((∀ item ∈ m.exports, item.name ≠ name) ∧
        (resolveEntry name ⟨m, store⟩).Stops host (.failed (.entryNotFound name)) host) ∨
      ∃ found, m.Unfit name found ∧
        (resolveEntry name ⟨m, store⟩).Stops host (.failed (.entryMismatch name found)) host := by
  rcases Module.enters_or_absent_or_unfit loaded name with ⟨type, enters⟩ | absent | ⟨found, unfit⟩
  · rcases (LinkedModule.enters_iff loaded).mp enters with ⟨func, found, _⟩
    rcases found.resolves store host with ⟨entry, _, _, resolves⟩
    exact .inl ⟨entry, _, resolves⟩
  · exact .inr (.inl ⟨absent, resolveEntry_of_absent absent store host⟩)
  · exact .inr (.inr ⟨found, unfit, resolveEntry_of_unfit loaded unshared unfit store host⟩)

end Answers

/-- The answer depends on the module alone. -/
theorem resolveEntry_static {τ : Type} {name : String} {inst twin : Instance}
    (same : twin.module = inst.module) (later : Host τ) (host : Host σ) :
    ((resolveEntry name twin).outcome later).1 = ((resolveEntry name inst).outcome host).1 := by
  simp only [resolveEntry, same]
  split
  · rfl
  · split
    · split
      · rfl
      · rfl
      · split <;> rfl
    · rfl

section Instances

variable [Engine] {limits : ResourceLimits} {bytes : ByteArray} {m : Module} {host after : Host σ}

theorem Instantiation.makeMemory_unshared {type : MemoryType} {memory : Memory}
    (made : (makeMemory type).Yields host memory after) : type.shared = false := by
  simp only [makeMemory, HostM.Yields, HostM.outcome_bind, HostM.outcome_get] at made
  split at made
  · simp at made
  · simp only [HostM.outcome_bind, HostM.outcome_set] at made
    split at made
    · split at made
      · simp at made
      · rename_i unshared
        exact Bool.eq_false_of_not_eq_true unshared
    · simp at made

/-- A module with a shared memory has no store. -/
theorem unshared_of_makeStore {store : Store} (made : (makeStore m).Yields host store after) :
    ∀ type ∈ m.memories, type.shared = false := by
  rcases HostM.bind_yields_iff.mp made with ⟨_, heaped, _, made⟩
  rcases HostM.bind_yields_iff.mp made with ⟨memories, later, madeAll, _⟩
  have pairs := HostM.forall₂_of_mapM_yields madeAll
  intro type type_mem
  rcases List.mem_iff_getElem.mp (Array.mem_toList_iff.mpr type_mem) with ⟨index, inRange, rfl⟩
  rcases (List.forall₂_iff_get.mp pairs).2 index inRange (pairs.length_eq ▸ inRange) with
    ⟨_, _, madeOne⟩
  exact makeMemory_unshared madeOne

variable [Sink σ] {steps : Nat} {first : Host σ} {inst : Instance}

theorem unshared_of_instantiate
    (instantiated : (instantiate steps limits bytes).Yields first inst host) :
    ∀ type ∈ inst.module.memories, type.shared = false := by
  rcases instantiate_yields_iff.mp instantiated with
    ⟨other, linked, store, admitted, ready, started, _, admits, made, starts, _⟩
  have same : inst.module = linked := by
    rcases start_yields starts with ⟨_, _, _, _, _, rfl, _⟩ | ⟨rfl, _⟩ <;> rfl
  rw [same, (admission_yields admits).module]
  exact unshared_of_makeStore made

/-- The function that was found returns values of its types. -/
theorem LinkedModule.EntryPoint.results_typed {name : String} {func : Func}
    (found : inst.module.EntryPoint name func)
    (instantiated : (instantiate steps limits bytes).Yields first inst host) {more : Nat}
    {before : Host σ} {run : Run σ} {results : List Value}
    (ended : callAfter more before inst func = .ended run (.returned results)) :
    List.Forall₂ (Value.HasType inst.module) results func.type.results := by
  rcases instantiate_typed instantiated with ⟨sound, typed⟩
  have present := found.mem_funcs
  rcases found with ⟨_, _, _, noParams⟩
  have called := callAfter_typed sound typed present noParams more before
  rw [ended] at called
  exact called.2

/-- The results of the entry point fill their places, so what is said of them is what was
returned. -/
theorem outcome_invoke_of_found {entry : Entry}
    (instantiated : (instantiate steps limits bytes).Yields first inst host)
    (found : inst.module.EntryPoint entry.name entry.func) (more : Nat) (resolved : Host σ) :
    (invoke more inst entry).outcome resolved =
      match callAfter more (resolved.record (.invoking entry.name)) inst entry.func with
      | .running run => (.error .unfinished, run.host)
      | .ended run (.returned results) =>
          (.ok ⟨run.host.calls, run.host.limiter.peak⟩,
            if results.isEmpty then run.host
            else run.host.record (.resultsIgnored entry.name results))
      | .ended run (.aborted abort) =>
          let failure : Failure := .aborted (Engine.backtrace run.machine) abort
          (.error (.failed (.trapped entry.name failure.reason)),
            run.host.record (.trapped entry.name failure.text))
      | .ended run .overflow => (.error .overflow, run.host) := by
  rw [outcome_invoke]
  rcases ended : callAfter more (resolved.record (.invoking entry.name)) inst entry.func with
    run | ⟨run, results | abort | _⟩
  · rfl
  · have lengths := (found.results_typed instantiated ended).length_eq
    simp only [overwrite_of_length (entry.length_places.trans lengths.symm)]
  · rfl
  · rfl

/-- The call of the entry point fails only for what its own execution comes to. -/
theorem invoke_stops_genuinely {entry : Entry} {resolved : Host σ} {more : Nat} {error : Error}
    (instantiated : (instantiate steps limits bytes).Yields first inst host)
    (found : inst.module.EntryPoint entry.name entry.func)
    (stops : (invoke more inst entry).Stops resolved (.failed error) after) :
    ∃ before run last abort,
      callAfter before (resolved.record (.invoking entry.name)) inst entry.func = .running run ∧
      run.step = .ended last (.aborted abort) ∧ run.Aborts abort ∧
      error = .trapped entry.name
        (Failure.aborted (Engine.backtrace last.machine) abort).reason := by
  rcases instantiate_typed instantiated with ⟨sound, typed⟩
  have present := found.mem_funcs
  rw [HostM.Stops, outcome_invoke] at stops
  split at stops
  · simp at stops
  · simp at stops
  · rename_i last abort ended
    simp only [Prod.mk.injEq, Except.error.injEq, Stop.failed.injEq] at stops
    rcases exists_aborts_of_callAfter sound typed present entry.noParams ended with
      ⟨before, run, reached, step, aborts⟩
    exact ⟨before, run, last, abort, reached, step, aborts, stops.1.symm⟩
  · simp at stops

/-- The answer to the look-up of an entry point is read off the exports and types of the module. It
is found exactly if a function without parameters is exported under the name. It is not found if
nothing is, and described otherwise, and in both cases the host stays as it was. Any other instance
of the module gives the same answer, whatever its limits, its sink and its start function.

An entry point that was found is the exported function, with its results counted. A call is refused
exactly if it has other numbers of arguments or of places for results than declared. The entry point
is called with neither, so it runs: the outcome is that of its execution. What it returns is of the
types declared, and it fails only by a trap of its own code or by a sink that refuses a number. -/
theorem entry_resolution_exact
    (instantiated : (instantiate steps limits bytes).Yields first inst host) (name : String) :
    ((∃ entry resolved, (resolveEntry name inst).Yields host entry resolved) ↔
        ∃ index type, ⟨name, .func index⟩ ∈ inst.module.exports ∧
          inst.module.funcTypes[index]? = some type ∧ type.params = []) ∧
      (∀ after, (resolveEntry name inst).Stops host (.failed (.entryNotFound name)) after ↔
        after = host ∧ ∀ item ∈ inst.module.exports, item.name ≠ name) ∧
      (∀ found after,
        (resolveEntry name inst).Stops host (.failed (.entryMismatch name found)) after ↔
          after = host ∧ inst.module.Unfit name found) ∧
      (∀ stop after, (resolveEntry name inst).Stops host stop after →
        stop = .failed (.entryNotFound name) ∨
          ∃ found, stop = .failed (.entryMismatch name found)) ∧
      (∀ (τ : Type) [Sink τ] (more : Nat) (other : ResourceLimits) (before later : Host τ)
          (twin : Instance), (instantiate more other bytes).Yields before twin later →
        ((resolveEntry name twin).outcome later).1 = ((resolveEntry name inst).outcome host).1) ∧
      ∀ entry resolved, (resolveEntry name inst).Yields host entry resolved →
        entry.name = name ∧
        (∃ index, ⟨name, .func index⟩ ∈ inst.module.exports ∧
          inst.module.callee? index = some (.defined entry.func)) ∧
        entry.resultCount = entry.func.type.results.length ∧
        (∀ arguments places : List Value,
          arityRefusal? entry.func.type arguments.length places.length = none ↔
            arguments.length = entry.func.type.params.length ∧
              places.length = entry.func.type.results.length) ∧
        ([] : List Value).length = entry.func.type.params.length ∧
        entry.places.length = entry.func.type.results.length ∧
        (∀ more, (invoke more inst entry).outcome resolved =
          match callAfter more (resolved.record (.invoking name)) inst entry.func with
          | .running run => (.error .unfinished, run.host)
          | .ended run (.returned results) =>
              (.ok ⟨run.host.calls, run.host.limiter.peak⟩,
                if results.isEmpty then run.host
                else run.host.record (.resultsIgnored name results))
          | .ended run (.aborted abort) =>
              let failure : Failure := .aborted (Engine.backtrace run.machine) abort
              (.error (.failed (.trapped name failure.reason)),
                run.host.record (.trapped name failure.text))
          | .ended run .overflow => (.error .overflow, run.host)) ∧
        (∀ more run results, callAfter more (resolved.record (.invoking name)) inst entry.func
            = .ended run (.returned results) →
          List.Forall₂ (Value.HasType inst.module) results entry.func.type.results) ∧
        ∀ more error after, (invoke more inst entry).Stops resolved (.failed error) after →
          ∃ before run last abort,
            callAfter before (resolved.record (.invoking name)) inst entry.func = .running run ∧
            run.step = .ended last (.aborted abort) ∧ run.Aborts abort ∧
            error = .trapped name
              (Failure.aborted (Engine.backtrace last.machine) abort).reason := by
  have loaded := (good_of_instantiate instantiated).1
  have unshared := unshared_of_instantiate instantiated
  have answers := resolveEntry_answers loaded unshared name inst.store host
  refine ⟨?_, ?_, ?_, ?_, ?_, ?_⟩
  · rw [← LinkedModule.exists_entryPoint_iff loaded]
    constructor
    · rintro ⟨entry, resolved, resolves⟩
      exact ⟨_, (resolveEntry_yields resolves).2.1⟩
    · rintro ⟨func, found⟩
      rcases found.resolves inst.store host with ⟨entry, _, _, resolves⟩
      exact ⟨entry, _, resolves⟩
  · intro after
    constructor
    · intro stops
      rcases answers with ⟨entry, resolved, resolves⟩ | ⟨absent, notFound⟩ | ⟨found, _, mismatch⟩
      · simpa using stops.symm.trans resolves
      · have same := stops.symm.trans notFound
        exact ⟨congrArg Prod.snd same, absent⟩
      · simpa using stops.symm.trans mismatch
    · rintro ⟨rfl, absent⟩
      exact resolveEntry_of_absent absent inst.store after
  · intro found after
    constructor
    · intro stops
      rcases answers with ⟨entry, resolved, resolves⟩ | ⟨_, notFound⟩ | ⟨other, unfit, mismatch⟩
      · simpa using stops.symm.trans resolves
      · simpa using stops.symm.trans notFound
      · have same := stops.symm.trans mismatch
        simp only [Prod.mk.injEq, Except.error.injEq, Stop.failed.injEq, Error.entryMismatch.injEq,
          true_and] at same
        exact ⟨same.2, same.1 ▸ unfit⟩
    · rintro ⟨rfl, unfit⟩
      exact resolveEntry_of_unfit loaded unshared unfit inst.store after
  · intro stop after stops
    rcases answers with ⟨entry, resolved, resolves⟩ | ⟨_, notFound⟩ | ⟨found, _, mismatch⟩
    · simpa using stops.symm.trans resolves
    · have same := stops.symm.trans notFound
      simp only [Prod.mk.injEq, Except.error.injEq] at same
      exact .inl same.1
    · have same := stops.symm.trans mismatch
      simp only [Prod.mk.injEq, Except.error.injEq] at same
      exact .inr ⟨found, same.1⟩
  · intro τ _ more other before later twin instantiatedToo
    have sameModule := Option.some.inj ((good_of_instantiate instantiatedToo).1.symm.trans loaded)
    exact resolveEntry_static (LinkedModule.eq_of_toModule_eq sameModule) later host
  · intro entry resolved resolves
    rcases resolveEntry_yields resolves with ⟨rfl, found, _⟩
    have counts := arityRefusal?_eq_none_iff.mp entry.arityRefusal?_eq_none
    refine ⟨rfl, found.exported, entry.counted.symm, fun _ _ => arityRefusal?_eq_none_iff, counts.1,
      counts.2, ?_, ?_, ?_⟩
    · intro more
      exact outcome_invoke_of_found instantiated found more resolved
    · intro more run results ended
      exact found.results_typed instantiated ended
    · intro more error after stops
      exact invoke_stops_genuinely instantiated found stops

end Instances

section

open PlainEngine

/-- The entry point of the growing module is found after its start function has printed a number,
and nothing is found under another name. With a sink that refuses a second number the call is
aborted. -/
theorem growingModule_entry_resolution :
    ∃ inst, ∃ host : Host Recorder, (instantiate 20 fourPages.limits growingModule).Yields
        { sink := { capacity := some 1 } } inst host ∧
      (resolveEntry "main" inst).Stops host (.failed (.entryNotFound "main")) host ∧
      ∃ entry resolved, (resolveEntry "exported_main" inst).Yields host entry resolved ∧
        ∃ before run last abort, callAfter before (resolved.record (.invoking "exported_main")) inst
            entry.func = .running run ∧ run.step = .ended last (.aborted abort) ∧ run.Aborts abort ∧
          (Failure.aborted (Engine.backtrace last.machine) abort).reason
            = "js_putn failed to write output: broken pipe" := by
  have instantiates : (instantiate 20 fourPages.limits growingModule).succeedsWith
      { sink := ({ capacity := some 1 } : Recorder) } (fun inst host =>
        inst.module.exports = #[⟨"exported_main", .func 2⟩] &&
          inst.module.funcTypes[2]? = some ⟨[], []⟩ &&
          match ((resolveEntry "exported_main" inst >>= invoke 20 inst).outcome host).1 with
          | .error stop => stop = .failed (.trapped "exported_main"
              "js_putn failed to write output: broken pipe")
          | .ok _ => false) = true := by
    decide +kernel
  rcases HostM.exists_of_succeedsWith instantiates with ⟨inst, host, yields, facts⟩
  simp only [Bool.and_eq_true, decide_eq_true_eq] at facts
  rcases facts with ⟨⟨exported, declared⟩, trapped⟩
  have resolution := entry_resolution_exact yields "exported_main"
  rcases resolution.1.mpr ⟨2, ⟨[], []⟩, by simp [exported], declared, rfl⟩ with
    ⟨entry, resolved, resolves⟩
  refine ⟨inst, host, yields, ?_, entry, resolved, resolves, ?_⟩
  · exact ((entry_resolution_exact yields "main").2.1 host).mpr ⟨rfl, by simp [exported]⟩
  · have outcome : (resolveEntry "exported_main" inst >>= invoke 20 inst).outcome host
        = (invoke 20 inst entry).outcome resolved := by
      rw [HostM.outcome_bind, resolves]
    rw [outcome] at trapped
    rcases result : (invoke 20 inst entry).outcome resolved with ⟨stop | completion, after⟩
    · simp only [result, decide_eq_true_eq] at trapped
      subst trapped
      rcases resolution.2.2.2.2.2 entry resolved resolves with ⟨_, _, _, _, _, _, _, _, genuine⟩
      rcases genuine 20 _ after result with ⟨before, run, last, abort, reached, step, aborts, same⟩
      exact ⟨before, run, last, abort, reached, step, aborts, (Error.trapped.inj same).2.symm⟩
    · simp [result] at trapped

end

end WasmHost
