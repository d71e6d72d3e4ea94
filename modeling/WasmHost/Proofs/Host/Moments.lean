import Mathlib
import WasmHost.Host.Session
import WasmHost.Proofs.Host.Instantiation
import WasmHost.Proofs.Host.Progress

/-!
# The moments of a run

A run is a function from a host to a result, so the states that it passes through do not show in its
result. This file names them. A moment is a host together with the store as far as it has been made:

* while the store is made, after any number of memories, then of tables, then of segments;
* in the start function and in the entry point, after any number of steps;
* after instantiation, before the entry point is looked up.

Each of them is described by the functions that the run itself is made of, applied to the part of
the module or to the number of steps that it has got to. Requests for memory are described in the
same way, by the moment at which they are made and the sizes that the limiter is told.

`Invariant` is the induction over a run: what holds while the store is made, and is kept by the log
and by every step, holds at every moment.
-/

namespace WasmHost

open Instantiation

variable {σ : Type}

/-- The module exports a function of its own without parameters under a name. -/
inductive LinkedModule.EntryPoint (m : LinkedModule) (name : String) : Func → Prop
  | intro {item : Export} {index : Nat} {func : Func} (exported : m.export? name = some item)
      (isFunc : item.kind = .func index) (defined : m.callee? index = some (.defined func))
      (noParams : func.type.params = []) : EntryPoint m name func

/-- Looking up an entry point fails if there is none, and logs it otherwise. -/
theorem resolveEntry_cases (name : String) (inst : Instance) :
    (∃ error, error.stage = .resolve ∧ (∀ func, ¬inst.module.EntryPoint name func) ∧
        ∀ σ, (resolveEntry name inst : HostM σ Entry) = .fail error) ∨
      ∃ entry : Entry, entry.name = name ∧ inst.module.EntryPoint name entry.func ∧
        ∀ σ, (resolveEntry name inst : HostM σ Entry) = (do
          HostM.record (.entryResolved name entry.func.type)
          pure entry) := by
  simp only [resolveEntry]
  split
  · rename_i absent
    refine .inl ⟨_, rfl, ?_, fun _ => rfl⟩
    rintro func ⟨exported, _, _, _⟩
    simp [absent] at exported
  · rename_i item exported
    have only : ∀ {func : Func}, inst.module.EntryPoint name func →
        ∃ index, item.kind = .func index ∧ inst.module.callee? index = some (.defined func) ∧
          func.type.params = [] := by
      rintro func ⟨exportedToo, isFunc, defined, noParams⟩
      cases exported.symm.trans exportedToo
      exact ⟨_, isFunc, defined, noParams⟩
    split
    · rename_i index isFunc
      have same : ∀ {func : Func}, inst.module.EntryPoint name func →
          inst.module.callee? index = some (.defined func) ∧ func.type.params = [] := by
        intro func entry
        rcases only entry with ⟨other, isFuncToo, defined, noParams⟩
        cases isFunc.symm.trans isFuncToo
        exact ⟨defined, noParams⟩
      split
      · rename_i absent
        refine .inl ⟨_, rfl, ?_, fun _ => rfl⟩
        intro func entry
        have defined := (same entry).1
        simp [absent] at defined
      · rename_i isHost
        refine .inl ⟨_, rfl, ?_, fun _ => rfl⟩
        intro func entry
        have defined := (same entry).1
        simp [isHost] at defined
      · rename_i func defined
        split
        · rename_i noParams
          exact .inr ⟨⟨name, func, _, noParams, rfl⟩, rfl, ⟨exported, isFunc, defined, noParams⟩,
            fun _ => rfl⟩
        · rename_i params
          refine .inl ⟨_, rfl, ?_, fun _ => rfl⟩
          intro other entry
          rcases same entry with ⟨definedToo, noParams⟩
          cases defined.symm.trans definedToo
          exact params noParams
    · rename_i notFunc
      refine .inl ⟨_, rfl, ?_, fun _ => rfl⟩
      intro func entry
      rcases only entry with ⟨index, isFunc, _⟩
      exact notFunc index isFunc

theorem resolveEntry_yields {name : String} {inst : Instance} {entry : Entry} {host after : Host σ}
    (resolves : (resolveEntry name inst).Yields host entry after) :
    entry.name = name ∧ inst.module.EntryPoint name entry.func ∧
      after = host.record (.entryResolved name entry.func.type) := by
  rcases resolveEntry_cases name inst with ⟨error, _, _, fails⟩ | ⟨entry, named, isEntry, found⟩
  · rw [fails] at resolves
    simp [HostM.Yields] at resolves
  · rw [found] at resolves
    simp only [HostM.Yields, HostM.outcome_bind, HostM.outcome_record, HostM.outcome_pure,
      Prod.mk.injEq, Except.ok.injEq] at resolves
    rcases resolves with ⟨rfl, rfl⟩
    exact ⟨named, isEntry, rfl⟩

/-- A failed look-up leaves the host as it was. -/
theorem resolveEntry_stops {name : String} {inst : Instance} {stop : Stop} {host after : Host σ}
    (stops : (resolveEntry name inst).Stops host stop after) :
    (∃ error, error.stage = .resolve ∧ stop = .failed error) ∧
      (∀ func, ¬inst.module.EntryPoint name func) ∧ after = host := by
  rcases resolveEntry_cases name inst with ⟨error, stage, absent, fails⟩ | ⟨entry, _, _, found⟩
  · rw [fails, HostM.Stops, HostM.outcome_fail, Prod.mk.injEq, Except.error.injEq] at stops
    rcases stops with ⟨rfl, rfl⟩
    exact ⟨⟨error, stage, rfl⟩, absent, rfl⟩
  · rw [found] at stops
    simp only [HostM.Stops, HostM.outcome_bind, HostM.outcome_record, HostM.outcome_pure,
      Prod.mk.injEq, reduceCtorEq, false_and] at stops

section Arity

theorem Entry.length_places (entry : Entry) :
    entry.places.length = entry.func.type.results.length := by
  rw [places, List.length_replicate, entry.counted]

theorem arityRefusal?_eq_none_iff {type : FuncType} {arguments places : Nat} :
    arityRefusal? type arguments places = none ↔
      arguments = type.params.length ∧ places = type.results.length := by
  simp only [arityRefusal?]
  split <;> simp_all

/-- The entry point takes no arguments, and there is a place for each of its results. -/
theorem Entry.arityRefusal?_eq_none (entry : Entry) :
    arityRefusal? entry.func.type ([] : List Value).length entry.places.length = none := by
  rw [arityRefusal?_eq_none_iff, entry.noParams]
  exact ⟨rfl, entry.length_places⟩

@[simp]
theorem length_overwrite (places values : List Value) :
    (overwrite places values).length = places.length := by
  induction places generalizing values with
  | nil => rfl
  | cons place places ih =>
      cases values with
      | nil => rfl
      | cons value values => exact congrArg (· + 1) (ih values)

/-- Values for all places replace what was there. -/
theorem overwrite_of_length {places values : List Value} (all : places.length = values.length) :
    overwrite places values = values := by
  induction places generalizing values with
  | nil => exact (List.length_eq_zero_iff.mp all.symm).symm
  | cons place places ih =>
      cases values with
      | nil => cases all
      | cons value values => exact congrArg (value :: ·) (ih (Nat.succ.inj all))

/-- There is something to be said of results exactly if the entry point has any. -/
theorem Entry.isEmpty_overwrite (entry : Entry) (values : List Value) :
    (overwrite entry.places values).isEmpty = entry.func.type.results.isEmpty := by
  have lengths := (length_overwrite entry.places values).trans entry.length_places
  rw [Bool.eq_iff_iff, List.isEmpty_iff, List.isEmpty_iff, ← List.length_eq_zero_iff, lengths,
    List.length_eq_zero_iff]

end Arity

variable [Engine]

/-- The stages of a run after the artifact has been loaded. -/
def runBytes [Sink σ] (steps : Nat) (config : Config) (bytes : ByteArray) : HostM σ Completion := do
  let inst ← instantiate steps config.limits bytes
  let entry ← resolveEntry config.entryPoint inst
  invoke steps inst entry

theorem run_eq [Sink σ] (steps : Nat) (files : Files) (path : String) (config : Config) :
    (run steps files path config : HostM σ Completion) = (do
      let artifact ← loadArtifact files path
      runBytes steps config artifact.bytes) :=
  rfl

/-- The check of the numbers passes, so the entry point is called. -/
theorem Entry.callChecked_eq [Sink σ] (entry : Entry) (steps : Nat) (inst : Instance) :
    (callChecked steps inst entry.func [] entry.places : HostM σ (Except Failure (List Value)))
      = (do
        let (_, outcome) ← Instantiation.call steps inst entry.func
        pure (outcome.map (overwrite entry.places))) := by
  simp only [callChecked, entry.arityRefusal?_eq_none]

/-- What becomes of the entry point, by how its call stands after the steps that it is given. -/
theorem outcome_invoke [Sink σ] {steps : Nat} {inst : Instance} {entry : Entry} {host : Host σ} :
    (invoke steps inst entry).outcome host =
      match callAfter steps (host.record (.invoking entry.name)) inst entry.func with
      | .running run => (.error .unfinished, run.host)
      | .ended run (.returned results) =>
          (.ok ⟨run.host.calls, run.host.limiter.peak⟩,
            if (overwrite entry.places results).isEmpty then run.host
            else run.host.record (.resultsIgnored entry.name (overwrite entry.places results)))
      | .ended run (.aborted abort) =>
          let failure : Failure := .aborted (Engine.backtrace run.machine) abort
          (.error (.failed (.trapped entry.name failure.reason)),
            run.host.record (.trapped entry.name failure.text))
      | .ended run .overflow => (.error .overflow, run.host) := by
  simp only [invoke, entry.callChecked_eq, HostM.outcome_bind, HostM.outcome_record, outcome_call]
  rcases callAfter steps (host.record (.invoking entry.name)) inst entry.func with
    run | ⟨run, results | abort | _⟩
  · rfl
  · simp only [HostM.outcome_pure, Except.map]
    cases overwrite entry.places results <;> rfl
  · rfl
  · rfl

/-- An entry point that completes has returned, and the report is taken from the host at that time.
-/
theorem invoke_yields [Sink σ] {steps : Nat} {inst : Instance} {entry : Entry}
    {completion : Completion} {host after : Host σ}
    (invoked : (invoke steps inst entry).Yields host completion after) :
    ∃ run results,
      callAfter steps (host.record (.invoking entry.name)) inst entry.func
          = .ended run (.returned results) ∧
        completion = ⟨run.host.calls, run.host.limiter.peak⟩ := by
  rw [HostM.Yields, outcome_invoke] at invoked
  split at invoked
  · simp at invoked
  · rename_i run results ended
    simp only [Prod.mk.injEq, Except.ok.injEq] at invoked
    exact ⟨run, results, ended, invoked.1.symm⟩
  · simp at invoked
  · simp at invoked

/-- The report of a completed run is taken from the host that it leaves. -/
theorem invoke_report [Sink σ] {steps : Nat} {inst : Instance} {entry : Entry}
    {completion : Completion} {host after : Host σ}
    (invoked : (invoke steps inst entry).Yields host completion after) :
    completion = ⟨after.calls, after.limiter.peak⟩ := by
  rw [HostM.Yields, outcome_invoke] at invoked
  split at invoked
  · simp at invoked
  · rename_i run results _
    simp only [Prod.mk.injEq, Except.ok.injEq] at invoked
    rcases invoked with ⟨rfl, rfl⟩
    split <;> rfl
  · simp at invoked
  · simp at invoked

theorem runBytes_report [Sink σ] {steps : Nat} {config : Config} {bytes : ByteArray}
    {completion : Completion} {host after : Host σ}
    (completes : (runBytes steps config bytes).Yields host completion after) :
    completion = ⟨after.calls, after.limiter.peak⟩ := by
  rcases HostM.bind_yields_iff.mp completes with ⟨inst, started, _, completes⟩
  rcases HostM.bind_yields_iff.mp completes with ⟨entry, resolved, _, invoked⟩
  exact invoke_report invoked

/-- A module that is instantiated within some steps is so within more. -/
theorem instantiate_mono [Sink σ] {steps more : Nat} {limits : ResourceLimits} {bytes : ByteArray}
    {inst : Instance} {host after : Host σ}
    (instantiated : (instantiate steps limits bytes).Yields host inst after) (le : steps ≤ more) :
    (instantiate more limits bytes).Yields host inst after := by
  rcases instantiate_yields_iff.mp instantiated with
    ⟨m, linked, store, admitted, ready, started, loaded, admits, made, starts, logged⟩
  exact instantiate_yields_iff.mpr
    ⟨m, linked, store, admitted, ready, started, loaded, admits, made, start_mono starts le, logged⟩

/-- Making the store of a module, from the first host on, has got to the given host and store. -/
inductive Makes (m : Module) (first host : Host σ) (store : Store) : Prop
  | memories (types : List MemoryType) (part : types <+: m.memories.toList)
      (made : (makeMemories m types).Yields first store host)
  | tables (types : List TableType) (part : types <+: m.tables.toList)
      (made : (makeTables m types).Yields first store host)
  | elems (segments : List ElemSegment) (part : segments <+: m.elems.toList)
      (made : (fillTables m segments).Yields first store host)
  | datas (segments : List DataSegment) (part : segments <+: m.datas.toList)
      (made : (fillMemories m segments).Yields first store host)

/-- The run of an artifact calls this start function, with the host and the instance as they are
then. -/
inductive StartCall (config : Config) (bytes : ByteArray) (first : Host σ) :
    Host σ → Instance → Func → Prop
  | intro {m : Module} {linked : LinkedModule} {admitted host : Host σ} {store : Store}
      {func : Func} (loaded : Module.load? bytes = some m)
      (admits : (admission config.limits bytes.size m).Yields first linked admitted)
      (made : (makeStore m).Yields admitted store host)
      (named : linked.start.bind linked.callee? = some (.defined func)) :
      StartCall config bytes first host ⟨linked, store⟩ func

variable [Sink σ]

/-- The run of an artifact makes this call: it is the one of the start function or of the entry
point, and the host and the instance are as they are then. -/
inductive Calls (config : Config) (bytes : ByteArray) (first : Host σ) :
    Host σ → Instance → Func → Prop
  | start {host : Host σ} {inst : Instance} {func : Func}
      (starts : StartCall config bytes first host inst func) :
      Calls config bytes first host inst func
  | entry {steps : Nat} {inst : Instance} {host resolved : Host σ} {entry : Entry}
      (instantiated : (instantiate steps config.limits bytes).Yields first inst host)
      (resolves : (resolveEntry config.entryPoint inst).Yields host entry resolved) :
      Calls config bytes first (resolved.record (.invoking entry.name)) inst entry.func

/-- The run of an artifact comes to this moment. -/
inductive Moment (config : Config) (bytes : ByteArray) (first : Host σ) : Host σ → Store → Prop
  | making {m : Module} {linked : LinkedModule} {admitted host : Host σ} {store : Store}
      (loaded : Module.load? bytes = some m)
      (admits : (admission config.limits bytes.size m).Yields first linked admitted)
      (makes : Makes m admitted host store) :
      Moment config bytes first host store
  | calling {host : Host σ} {inst : Instance} {func : Func}
      (calls : Calls config bytes first host inst func) (steps : Nat) :
      Moment config bytes first (callAfter steps host inst func).state.host
        (callAfter steps host inst func).state.machine.store
  | instantiated {steps : Nat} {inst : Instance} {host : Host σ}
      (instantiated : (instantiate steps config.limits bytes).Yields first inst host) :
      Moment config bytes first host inst.store

/-- What holds while the store of a run is made, and is kept by the log and by every step. -/
structure Invariant (config : Config) (bytes : ByteArray) (first : Host σ)
    (holds : Host σ → Store → Prop) : Prop where
  making : ∀ {m : Module} {linked : LinkedModule} {admitted host : Host σ} {store : Store},
    Module.load? bytes = some m →
      (admission config.limits bytes.size m).Yields first linked admitted →
        Makes m admitted host store → holds host store
  record : ∀ {host : Host σ} {store : Store} (event : Event), holds host store →
    holds (host.record event) store
  step : ∀ run : Run σ, holds run.host run.machine.store →
    holds run.step.state.host run.step.state.machine.store

namespace Invariant

variable {config : Config} {bytes : ByteArray} {first host : Host σ} {holds : Host σ → Store → Prop}
  {inst : Instance} {func : Func}

theorem made (invariant : Invariant config bytes first holds) {m : Module} {linked : LinkedModule}
    {admitted : Host σ} {store : Store} (loaded : Module.load? bytes = some m)
    (admits : (admission config.limits bytes.size m).Yields first linked admitted)
    (makes : (makeStore m).Yields admitted store host) : holds host store := by
  rw [makeStore_eq] at makes
  exact invariant.making loaded admits (.datas _ (List.prefix_refl _) makes)

theorem callAfter (invariant : Invariant config bytes first holds) (inst : Instance)
    (start : holds host inst.store) (steps : Nat) (func : Func) :
    holds (callAfter steps host inst func).state.host
      (callAfter steps host inst func).state.machine.store :=
  Run.advance_invariant invariant.step steps start

theorem instantiated (invariant : Invariant config bytes first holds) {steps : Nat}
    (yields : (instantiate steps config.limits bytes).Yields first inst host) :
    holds host inst.store := by
  rcases instantiate_yields_iff.mp yields with
    ⟨m, linked, store, admitted, ready, started, loaded, admits, makes, starts, rfl⟩
  have made := invariant.made loaded admits makes
  apply invariant.record
  rcases start_yields starts with ⟨func, run, results, _, ended, rfl, rfl⟩ | ⟨rfl, rfl⟩
  · have afterStart := invariant.callAfter ⟨linked, store⟩ made steps func
    rw [ended] at afterStart
    exact afterStart
  · exact made

theorem calls (invariant : Invariant config bytes first holds)
    (calls : Calls config bytes first host inst func) : holds host inst.store := by
  cases calls with
  | start starts =>
      rcases starts with ⟨loaded, admits, makes, _⟩
      exact invariant.made loaded admits makes
  | entry yields resolves =>
      rcases resolveEntry_yields resolves with ⟨_, _, rfl⟩
      exact invariant.record _ (invariant.record _ (invariant.instantiated yields))

/-- An invariant holds at every moment of a run. -/
theorem moment (invariant : Invariant config bytes first holds) {store : Store}
    (moment : Moment config bytes first host store) : holds host store := by
  cases moment with
  | making loaded admits makes => exact invariant.making loaded admits makes
  | calling calls steps => exact invariant.callAfter _ (invariant.calls calls) steps _
  | instantiated yields => exact invariant.instantiated yields

end Invariant

/-- The run of an artifact asks the limiter for memory: the heap of outside references, a memory of
its least size, or the growth of a memory. The host, the store and the sizes are those of the
request. -/
inductive Requests (config : Config) (bytes : ByteArray) (first : Host σ) :
    Host σ → Store → (current desired : Nat) → (maximum : Option Nat) → Prop
  | heap {m : Module} {linked : LinkedModule} {admitted : Host σ}
      (loaded : Module.load? bytes = some m)
      (admits : (admission config.limits bytes.size m).Yields first linked admitted)
      (needed : m.needsRefHeap = true) :
      Requests config bytes first admitted {} 0 0 (some UInt32.size)
  | initial {m : Module} {linked : LinkedModule} {admitted host : Host σ} {store : Store}
      {types rest : List MemoryType} {type : MemoryType}
      (loaded : Module.load? bytes = some m)
      (admits : (admission config.limits bytes.size m).Yields first linked admitted)
      (parts : m.memories.toList = types ++ type :: rest)
      (made : (makeMemories m types).Yields admitted store host) :
      Requests config bytes first host store 0
        (min (type.minimum * pageSize) Engine.greatestRequest) type.maximumBytes
  | growth {host : Host σ} {inst : Instance} {func : Func} {steps : Nat} {run : Run σ}
      {machine : Machine} {index pages : Nat} {memory : Memory}
      (calls : Calls config bytes first host inst func)
      (reached : callAfter steps host inst func = .running run)
      (asks : run.machine.step = .growMemory machine index pages)
      (present : machine.store.memories[index]? = some memory) (positive : pages ≠ 0) :
      Requests config bytes first run.host machine.store memory.size
        (min (memory.size + pages * pageSize) Engine.greatestRequest) memory.type.maximumBytes

end WasmHost
