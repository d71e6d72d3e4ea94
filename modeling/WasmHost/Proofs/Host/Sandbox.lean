import Mathlib
import WasmHost.Proofs.Host.Accounting

/-!
# The limits of a run

At every moment of a run the store keeps to the limits of the configuration, and the limiter's sum
is the size of the store. What the run reports is therefore what there is: the bytes in the event
that ends instantiation are those of the new store, and the peak of a completed run is the size of
the store when the entry point returned.

Both statements hold for every artifact, every configuration and every sink. They need no assumption
on how the run ends, because a run that is cut off by an overflow has not changed anything by the
request that overflowed.
-/

namespace WasmHost

open Instantiation

variable {σ : Type} {config : Config} {bytes : ByteArray} {first host : Host σ} {store : Store}

section Limits

variable [Engine]

theorem Makes.accounted {limits : ResourceLimits} {m : Module}
    (makes : Makes m first host store) (counts : WithinCounts limits m)
    (fresh : first.limiter = .ofLimits limits) : Accounted limits host.limiter store := by
  cases makes with
  | memories types part made => exact makeMemories_accounted part counts fresh made
  | tables types part made => exact makeTables_accounted part counts fresh made
  | elems segments part made => exact fillTables_accounted counts fresh made
  | datas segments part made => exact fillMemories_accounted counts fresh made

variable [Sink σ]

theorem callAfter_accounted {limits : ResourceLimits} (inst : Instance)
    (accounted : Accounted limits host.limiter inst.store) (steps : Nat) (func : Func) :
    (callAfter steps host inst func).state.Accounted limits := by
  apply Run.advance_accounted
  exact accounted

theorem accounted_invariant (config : Config) (bytes : ByteArray) (first : Host σ) :
    Invariant config bytes first fun host store => Accounted config.limits host.limiter store := by
  refine ⟨?_, ?_, ?_⟩
  · intro m linked admitted host store _ admits makes
    have admission := admission_yields admits
    exact makes.accounted admission.counts admission.limiter
  · intro host store event accounted
    exact accounted
  · exact Run.step_accounted

/-- The accounts are in order when instantiation succeeds. -/
theorem instantiate_accounted {steps : Nat} {inst : Instance}
    (instantiated : (instantiate steps config.limits bytes).Yields first inst host) :
    Accounted config.limits host.limiter inst.store :=
  (accounted_invariant config bytes first).instantiated instantiated

theorem Calls.accounted {inst : Instance} {func : Func}
    (calls : Calls config bytes first host inst func) :
    Accounted config.limits host.limiter inst.store :=
  (accounted_invariant config bytes first).calls calls

/-- The accounts are in order at every moment of a run. -/
theorem Moment.accounted (moment : Moment config bytes first host store) :
    Accounted config.limits host.limiter store :=
  (accounted_invariant config bytes first).moment moment

/-- There is a moment only if the limits allow an instance. -/
theorem Moment.one_le_maxInstances (moment : Moment config bytes first host store) :
    1 ≤ config.limits.maxInstances.toNat := by
  have ofInstance : ∀ {steps : Nat} {inst : Instance} {after : Host σ},
      (instantiate steps config.limits bytes).Yields first inst after →
        1 ≤ config.limits.maxInstances.toNat := by
    intro steps inst after instantiated
    rcases instantiate_yields_iff.mp instantiated with ⟨_, _, _, _, _, _, _, admits, _⟩
    exact (admission_yields admits).counts.instances
  cases moment with
  | making loaded admits makes => exact (admission_yields admits).counts.instances
  | calling calls steps =>
      cases calls with
      | start starts =>
          rcases starts with ⟨_, admits, _, _⟩
          exact (admission_yields admits).counts.instances
      | entry instantiated resolves => exact ofInstance instantiated
  | instantiated instantiated => exact ofInstance instantiated

/-- At every moment of a run, the bytes of all memories together are at most the ceiling, every
table has at most the elements that a table may have, and there are no more memories and tables than
the limits allow. There is no such moment if the limits allow no instance. -/
theorem moment_within_limits (moment : Moment config bytes first host store) :
    (∀ ceiling ∈ config.limits.maxMemoryBytes,
        (store.memories.toList.map Memory.size).sum ≤ ceiling.toNat) ∧
      (∀ table ∈ store.tables, table.size ≤ config.limits.maxTableElements.toNat) ∧
      store.memories.size ≤ config.limits.maxMemories.toNat ∧
      store.tables.size ≤ config.limits.maxTables.toNat ∧
      config.limits.maxInstances ≠ 0 := by
  have accounted := moment.accounted
  refine ⟨?_, accounted.tableSize, accounted.memoryCount, accounted.tableCount, ?_⟩
  · rw [← Store.memoryBytes_eq_sum]
    exact accounted.balanced.below
  · intro noInstance
    have allowed := moment.one_le_maxInstances
    simp [noInstance] at allowed

end Limits

/-- A module with two memories and a table. Its start function grows the first memory, and its entry
point grows the second one, the table, and the first memory again by nine pages; all answers are
printed. -/
def growingModule : ByteArray :=
  ⟨#[0, 97, 115, 109, 1, 0, 0, 0, 1, 8, 2, 96, 1, 127, 0, 96, 0, 0, 2, 15, 1, 3, 101, 110, 118, 7,
    106, 115, 95, 112, 117, 116, 110, 0, 0, 3, 3, 2, 1, 1, 4, 4, 1, 112, 0, 1, 5, 5, 2, 0, 1, 4, 0,
    7, 17, 1, 13, 101, 120, 112, 111, 114, 116, 101, 100, 95, 109, 97, 105, 110, 0, 2, 8, 1, 1, 10,
    35, 2, 8, 0, 65, 1, 64, 0, 16, 0, 11, 24, 0, 66, 1, 64, 1, 167, 16, 0, 208, 112, 65, 2, 252, 15,
    0, 16, 0, 65, 9, 64, 0, 16, 0, 11]⟩

/-- A ceiling of four pages, which the last growth of the module would exceed. -/
def fourPages : Config where
  limits := { maxMemoryBytes := some 262144 }

section

open PlainEngine

theorem growingModule_within_limits :
    ∃ host store, Moment fourPages growingModule { sink := ({} : Recorder) } host store ∧
      store.memoryBytes = 131072 ∧
      (store.memories.toList.map Memory.size).sum ≤ 262144 ∧
      (∀ table ∈ store.tables, table.size ≤ 20000) := by
  have instantiates : (instantiate 20 fourPages.limits growingModule).succeedsWith
      { sink := ({} : Recorder) } (fun inst _ => inst.store.memoryBytes = 131072) = true := by
    decide +kernel
  rcases HostM.exists_of_succeedsWith instantiates with ⟨inst, host, yields, size⟩
  have moment : Moment fourPages growingModule { sink := ({} : Recorder) } host inst.store :=
    .instantiated yields
  have limits := moment_within_limits moment
  exact ⟨host, inst.store, moment, by simpa using size, limits.1 262144 rfl, limits.2.1⟩

end

/-- At every moment of a run the limiter's sum is the size of all memories of the store. So the
event that ends instantiation tells the size of the new store, and the peak in the report of a
completed run is the size of the store when the entry point returned. -/
theorem accounting_exact [Engine] [Sink σ] (config : Config) (bytes : ByteArray) (first : Host σ) :
    (∀ host store, Moment config bytes first host store →
        host.limiter.current.toNat = (store.memories.toList.map Memory.size).sum) ∧
      (∀ steps inst host, (instantiate steps config.limits bytes).Yields first inst host →
        ∃ imports exports total, host.events.back? = some (.instantiated imports exports total) ∧
          total.toNat = (inst.store.memories.toList.map Memory.size).sum) ∧
      ∀ steps inst host entry resolved more completion after,
        (instantiate steps config.limits bytes).Yields first inst host →
        (resolveEntry config.entryPoint inst).Yields host entry resolved →
        (invoke more inst entry).Yields resolved completion after →
        ∃ run results, callAfter more (resolved.record (.invoking entry.name)) inst entry.func
            = .ended run (.returned results) ∧
          completion.peakBytes.toNat = (run.machine.store.memories.toList.map Memory.size).sum := by
  refine ⟨?_, ?_, ?_⟩
  · intro host store moment
    rw [← Store.memoryBytes_eq_sum]
    exact moment.accounted.balanced.current_eq
  · intro steps inst host instantiated
    have accounted := instantiate_accounted instantiated
    rcases instantiate_yields_iff.mp instantiated with
      ⟨m, _, _, _, _, started, _, _, _, _, rfl⟩
    refine ⟨m.imports.size, m.exports.size, started.limiter.current, by simp [Host.record], ?_⟩
    rw [← Store.memoryBytes_eq_sum]
    exact accounted.balanced.current_eq
  · intro steps inst host entry resolved more completion after instantiated resolves invoked
    rcases invoke_yields invoked with ⟨run, results, ended, rfl⟩
    have calls : Calls config bytes first _ inst entry.func := .entry instantiated resolves
    have accounted := callAfter_accounted inst calls.accounted more entry.func
    rw [ended] at accounted
    have exactSum : run.host.limiter.current.toNat = run.machine.store.memoryBytes :=
      accounted.balanced.current_eq
    have peak : run.host.limiter.peak = run.host.limiter.current := accounted.balanced.peak_eq
    refine ⟨run, results, ended, ?_⟩
    rw [← Store.memoryBytes_eq_sum, ← exactSum, peak]

section

open PlainEngine

/-- The growing module is instantiated, its entry point is called and returns, and the run has a
peak of three pages: two of the first memory, of which the start function added one, and one of the
second. -/
theorem growingModule_accounting_exact :
    ∃ inst host entry resolved completion after run results,
      (instantiate 20 fourPages.limits growingModule).Yields { sink := ({} : Recorder) } inst host ∧
      (resolveEntry fourPages.entryPoint inst).Yields host entry resolved ∧
      (invoke 20 inst entry).Yields resolved completion after ∧
      callAfter 20 (resolved.record (.invoking entry.name)) inst entry.func
        = .ended run (.returned results) ∧
      completion.peakBytes = 196608 ∧
      completion.peakBytes.toNat = (run.machine.store.memories.toList.map Memory.size).sum := by
  have completes : (do
      let inst ← instantiate 20 fourPages.limits growingModule
      let entry ← resolveEntry fourPages.entryPoint inst
      invoke 20 inst entry).succeedsWith { sink := ({} : Recorder) }
        (fun completion _ => completion.peakBytes = 196608) = true := by
    decide +kernel
  rcases HostM.exists_of_succeedsWith completes with ⟨completion, after, yields, peak⟩
  rcases HostM.bind_yields_iff.mp yields with ⟨inst, host, instantiated, yields⟩
  rcases HostM.bind_yields_iff.mp yields with ⟨entry, resolved, resolves, invoked⟩
  rcases (accounting_exact fourPages growingModule { sink := ({} : Recorder) }).2.2 _ _ _ _ _ _ _ _
    instantiated resolves invoked with ⟨run, results, ended, total⟩
  exact ⟨inst, host, entry, resolved, completion, after, run, results, instantiated, resolves,
    invoked, ended, by simpa using peak, total⟩

end

end WasmHost
