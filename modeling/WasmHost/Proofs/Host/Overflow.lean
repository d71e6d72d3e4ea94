import Mathlib
import WasmHost.Host.Report
import WasmHost.Proofs.Host.Sandbox
import WasmHost.Proofs.Host.Stages

/-!
# Overflow of the limiter

The limiter adds the bytes of a request to those of all memories in a 64-bit word. This file proves
exactly when that fails: the memory's own maximum allows the request, and the exact sum does not fit
into a word. In all other cases the limiter approves or denies, as the exact sum says.

A run can make such a request. It takes two memories, one of them with 64-bit addresses and without
a maximum: growth is asked for up to a page below the end of the word, so that any page of another
memory makes the sum too large. `hugeGrowth` is a module that does so, and its run ends by the
overflow even where a ceiling is configured that the growth exceeds by far.

That is the only way in which a run ends without a report. A run overflows, within enough steps, if
and only if it makes a request of this kind, and every report has an exit code of its stage.
-/

namespace WasmHost

open Instantiation

variable {σ : Type}

theorem MemoryType.maximumBytes_lt_size {type : MemoryType} :
    ∀ bound ∈ type.maximumBytes, bound < UInt64.size := by
  intro bound bound_mem
  simp only [maximumBytes] at bound_mem
  split at bound_mem
  · split at bound_mem
    · rename_i fits
      simp only [Option.mem_def, Option.some.injEq] at bound_mem
      omega
    · simp at bound_mem
  · simp only [Option.mem_def, Option.some.injEq] at bound_mem
    subst bound_mem
    decide
  · simp at bound_mem

namespace Host

variable {host : Host σ} {limits : ResourceLimits} {bytes current desired : Nat}
  {maximum : Option Nat}

theorem askMemory_eq_none_iff_memoryGrowing :
    host.askMemory current desired maximum = none ↔
      host.limiter.memoryGrowing (.ofNat current) (.ofNat desired) (maximum.map .ofNat) = none := by
  simp only [askMemory]
  split <;> simp_all

theorem askMemory_denied_iff_memoryGrowing :
    (∃ after, host.askMemory current desired maximum = some (false, after)) ↔
      ∃ verdict, host.limiter.memoryGrowing (.ofNat current) (.ofNat desired) (maximum.map .ofNat)
          = some verdict ∧ verdict.approved = false := by
  simp only [askMemory]
  split <;> simp_all

/-- A size that fits into a word is compared with a bound that does, as a word or as a number. -/
theorem ofNat_le_iff {bound : Nat} (desiredFits : desired < UInt64.size)
    (boundFits : bound < UInt64.size) :
    UInt64.ofNat desired ≤ UInt64.ofNat bound ↔ desired ≤ bound := by
  rw [UInt64.le_iff_toNat_le, toNat_ofNat_of_lt desiredFits, toNat_ofNat_of_lt boundFits]

/-- The limiter overflows exactly if the maximum allows the request and the exact sum does not fit.
-/
theorem askMemory_eq_none_iff (balanced : host.limiter.Balanced limits bytes)
    (currentFits : current < UInt64.size) (desiredFits : desired < UInt64.size)
    (maximumFits : ∀ bound ∈ maximum, bound < UInt64.size) :
    host.askMemory current desired maximum = none ↔
      (∀ bound ∈ maximum, desired ≤ bound) ∧ UInt64.size ≤ bytes + (desired - current) := by
  rw [askMemory_eq_none_iff_memoryGrowing, Limiter.memoryGrowing_eq_none_iff,
    balanced.totalAfter_eq, toNat_ofNat_of_lt currentFits, toNat_ofNat_of_lt desiredFits]
  apply and_congr_left
  intro _
  simp only [Option.mem_map, forall_exists_index, and_imp, forall_apply_eq_imp_iff₂]
  apply forall_congr'
  intro bound
  apply imp_congr_right
  intro bound_mem
  exact ofNat_le_iff desiredFits (maximumFits bound bound_mem)

/-- What the limiter approves is within the maximum. -/
theorem le_of_askMemory_approved {after : Host σ} (desiredFits : desired < UInt64.size)
    (maximumFits : ∀ bound ∈ maximum, bound < UInt64.size)
    (answer : host.askMemory current desired maximum = some (true, after)) :
    ∀ bound ∈ maximum, desired ≤ bound := by
  rcases exists_verdict answer with ⟨verdict, verdictEq, isApproved, _⟩
  have decision := host.limiter.memoryGrowing_decision (.ofNat current) (.ofNat desired)
    (maximum.map .ofNat)
  rw [verdictEq] at decision
  intro bound bound_mem
  cases decision with
  | overMaximum _ _ _ => cases isApproved
  | overCeiling _ _ _ _ _ => cases isApproved
  | approved allowed _ _ =>
      exact (ofNat_le_iff desiredFits (maximumFits bound bound_mem)).mp
        (allowed _ (Option.mem_map_of_mem _ bound_mem))

/-- The limiter denies exactly what is over the maximum, or over the ceiling by an exact sum that
fits into a word. -/
theorem askMemory_denied_iff (balanced : host.limiter.Balanced limits bytes)
    (currentFits : current < UInt64.size) (desiredFits : desired < UInt64.size)
    (maximumFits : ∀ bound ∈ maximum, bound < UInt64.size) :
    (∃ after, host.askMemory current desired maximum = some (false, after)) ↔
      (∃ bound ∈ maximum, bound < desired) ∨
        bytes + (desired - current) < UInt64.size ∧
          ∃ ceiling ∈ limits.maxMemoryBytes, ceiling.toNat < bytes + (desired - current) := by
  rw [askMemory_denied_iff_memoryGrowing, Limiter.memoryGrowing_denied_iff,
    balanced.totalAfter_eq, toNat_ofNat_of_lt currentFits, toNat_ofNat_of_lt desiredFits,
    balanced.limits_eq]
  apply or_congr_left
  simp only [Option.mem_map, exists_exists_and_eq_and]
  apply exists_congr
  intro bound
  apply and_congr_right
  intro bound_mem
  have compared := ofNat_le_iff desiredFits (maximumFits bound bound_mem)
  rw [← not_iff_not, UInt64.not_lt, compared]
  omega

end Host

namespace HostM

variable {α β : Type} {host : Host σ}

/-- The computation is cut off by an overflow. -/
def Overflows (x : HostM σ α) (host : Host σ) : Prop :=
  ∃ after, x.Stops host .overflow after

theorem overflows_iff {x : HostM σ α} :
    x.Overflows host ↔ (x.outcome host).1 = .error .overflow := by
  constructor
  · rintro ⟨after, stops⟩
    exact congrArg Prod.fst stops
  · intro result
    exact ⟨(x.outcome host).2, Prod.ext result rfl⟩

theorem OnlyFails.not_overflows {x : HostM σ α} (fails : x.OnlyFails) : ¬x.Overflows host := by
  rintro ⟨after, stops⟩
  rcases fails host _ after stops with ⟨error, impossible⟩
  simp at impossible

theorem bind_overflows_iff {x : HostM σ α} {next : α → HostM σ β} :
    (x >>= next).Overflows host ↔
      x.Overflows host ∨
        ∃ value middle, x.Yields host value middle ∧ (next value).Overflows middle := by
  simp only [Overflows, bind_stops_iff]
  constructor
  · rintro ⟨after, stops | ⟨value, middle, yields, stops⟩⟩
    · exact .inl ⟨after, stops⟩
    · exact .inr ⟨value, middle, yields, after, stops⟩
  · rintro (⟨after, stops⟩ | ⟨value, middle, yields, after, stops⟩)
    · exact ⟨after, .inl stops⟩
    · exact ⟨after, .inr ⟨value, middle, yields, stops⟩⟩

/-- A computation followed by one that only fails overflows by itself. -/
theorem bind_overflows_iff_of_onlyFails {x : HostM σ α} {next : α → HostM σ β}
    (fails : ∀ value, (next value).OnlyFails) :
    (x >>= next).Overflows host ↔ x.Overflows host := by
  rw [bind_overflows_iff]
  constructor
  · rintro (overflows | ⟨value, middle, _, overflows⟩)
    · exact overflows
    · exact absurd overflows (fails value).not_overflows
  · exact .inl

theorem mapM_overflows_iff {each : β → HostM σ α} {items : List β} :
    (items.mapM each).Overflows host ↔
      ∃ done item rest values middle, items = done ++ item :: rest ∧
        (done.mapM each).Yields host values middle ∧ (each item).Overflows middle := by
  simp only [Overflows, mapM_stops_iff]
  constructor
  · rintro ⟨after, done, item, rest, values, middle, parts, yields, stops⟩
    exact ⟨done, item, rest, values, middle, parts, yields, after, stops⟩
  · rintro ⟨done, item, rest, values, middle, parts, yields, after, stops⟩
    exact ⟨after, done, item, rest, values, middle, parts, yields, stops⟩

end HostM

namespace Instantiation

variable {host : Host σ} {m : Module}

theorem compositional_onlyFails : Compositional fun _ x => (x σ).OnlyFails :=
  ⟨fun free => free.onlyFails σ, fun _ => .ofModify _, .bind⟩

variable [Engine]

theorem onlyFails_admission (limits : ResourceLimits) (size : Nat) (m : Module) :
    (admission limits size m : HostM σ LinkedModule).OnlyFails := by
  simp only [admission]
  have parts : Compositional fun _ x => (x σ).OnlyFails := compositional_onlyFails
  refine .bind (.ofModify _) fun _ => .bind (.ofModify _) fun _ => ?_
  refine .bind (parts.checkImports _) fun _ => ?_
  refine .bind (parts.sequential.addToLinker _) fun linker => ?_
  refine .bind (parts.sequential.link linker m) fun linked => ?_
  exact .bind (parts.sequential.checkCounts m limits) fun _ => .pure linked

theorem onlyFails_makeTable (type : TableType) : (makeTable type : HostM σ Table).OnlyFails := by
  intro host stop after stops
  simp only [makeTable, HostM.Stops, HostM.outcome_bind, HostM.outcome_get] at stops
  split at stops
  · split at stops
    · simp at stops
    · simp only [HostM.outcome_reject, Prod.mk.injEq, Except.error.injEq] at stops
      exact ⟨_, stops.1.symm⟩
  · simp only [HostM.outcome_reject, Prod.mk.injEq, Except.error.injEq] at stops
    exact ⟨_, stops.1.symm⟩

theorem makeMemory_overflows_iff {type : MemoryType} :
    (makeMemory type).Overflows host ↔
      host.askMemory 0 (min (type.minimum * pageSize) Engine.greatestRequest) type.maximumBytes
        = none := by
  simp only [HostM.Overflows, HostM.Stops, makeMemory, HostM.outcome_bind, HostM.outcome_get]
  split
  · rename_i answer
    simp [answer]
  · rename_i approved after answer
    simp only [HostM.outcome_bind, HostM.outcome_set, answer, reduceCtorEq, iff_false]
    split
    · split
      · simp
      · split <;> simp
    · simp

theorem makeRefHeap_overflows_iff :
    (makeRefHeap m).Overflows host ↔
      m.needsRefHeap = true ∧ host.askMemory 0 0 (some UInt32.size) = none := by
  simp only [makeRefHeap]
  split
  · rename_i needed
    rw [HostM.bind_overflows_iff_of_onlyFails fun _ => .pure (), makeMemory_overflows_iff]
    simp [needed, MemoryType.maximumBytes]
  · rename_i unneeded
    simp only [unneeded, Bool.false_eq_true, false_and, iff_false]
    exact (HostM.OnlyFails.pure ()).not_overflows

/-- Making a store overflows at one of its memories, or at the heap of outside references. -/
theorem makeStore_overflows_iff :
    (makeStore m).Overflows host ↔
      m.needsRefHeap = true ∧ host.askMemory 0 0 (some UInt32.size) = none ∨
        ∃ types type rest store middle, m.memories.toList = types ++ type :: rest ∧
          (makeMemories m types).Yields host store middle ∧
          middle.askMemory 0 (min (type.minimum * pageSize) Engine.greatestRequest)
            type.maximumBytes = none := by
  simp only [makeStore_eq, fillMemories, fillTables, makeTables, makeMemories, bind_assoc,
    pure_bind]
  rw [HostM.bind_overflows_iff, makeRefHeap_overflows_iff]
  apply or_congr_right
  constructor
  · rintro ⟨_, heaped, heap, overflows⟩
    rw [HostM.bind_overflows_iff_of_onlyFails] at overflows
    · rcases HostM.mapM_overflows_iff.mp overflows with
        ⟨types, type, rest, memories, middle, parts, made, overflows⟩
      refine ⟨types, type, rest, { memories := memories.toArray }, middle, parts, ?_,
        makeMemory_overflows_iff.mp overflows⟩
      refine HostM.bind_yields_iff.mpr ⟨(), heaped, heap, ?_⟩
      exact HostM.bind_yields_iff.mpr ⟨memories, middle, made, rfl⟩
    · intro memories
      have parts : Sequential fun _ x => (x σ).OnlyFails := compositional_onlyFails.sequential
      refine .bind (parts.mapM_makeTable onlyFails_makeTable _) fun tables => ?_
      refine .bind (parts.makeGlobals _ _) fun globals => ?_
      exact .bind (parts.copyElems _ _) fun filled => parts.copyDatas _ _
  · rintro ⟨types, type, rest, store, middle, parts, made, overflows⟩
    rcases HostM.bind_yields_iff.mp made with ⟨_, heaped, heap, made⟩
    rcases HostM.bind_yields_iff.mp made with ⟨memories, last, made, same⟩
    simp only [HostM.Yields, HostM.outcome_pure, Prod.mk.injEq] at same
    refine ⟨(), heaped, heap, ?_⟩
    refine HostM.bind_overflows_iff.mpr (.inl (HostM.mapM_overflows_iff.mpr ?_))
    rw [← same.2] at overflows
    exact ⟨types, type, rest, memories, last, parts, made, makeMemory_overflows_iff.mpr overflows⟩

variable [Sink σ]

/-- A step overflows exactly if it asks for the growth of a memory and the limiter has no answer. -/
theorem step_overflow_iff {run : Run σ} :
    (∃ later, run.step = .ended later .overflow) ↔
      ∃ machine index pages memory, run.machine.step = .growMemory machine index pages ∧
        machine.store.memories[index]? = some memory ∧ pages ≠ 0 ∧
        run.host.askMemory memory.size
          (min (memory.size + pages * pageSize) Engine.greatestRequest)
          memory.type.maximumBytes = none := by
  rcases run with ⟨host, machine⟩
  constructor
  · rintro ⟨later, stepped⟩
    simp only [Run.step] at stepped
    split at stepped
    · simp at stepped
    · simp at stepped
    · simp at stepped
    · simp only [Run.emit] at stepped
      split at stepped <;> simp at stepped
    · rename_i asking index pages asks
      simp only [Run.growMemory] at stepped
      split at stepped
      · simp at stepped
      · rename_i memory present
        split at stepped
        · simp at stepped
        · rename_i positive
          split at stepped
          · rename_i answer
            exact ⟨asking, index, pages, memory, asks, present, positive, answer⟩
          · simp at stepped
          · split at stepped <;> simp at stepped
    · simp only [Run.growTable] at stepped
      split at stepped
      · simp at stepped
      · split at stepped
        · simp at stepped
        · split at stepped <;> simp at stepped
  · rintro ⟨asking, index, pages, memory, asks, present, positive, answer⟩
    refine ⟨⟨host, asking⟩, ?_⟩
    simp only at asks answer
    simp [Run.step, asks, Run.growMemory, present, positive, answer]

/-- A call overflows, within enough steps, exactly if it comes to a step that does. -/
theorem callAfter_overflow_iff {inst : Instance} {func : Func} :
    (∃ steps later, callAfter steps host inst func = .ended later .overflow) ↔
      ∃ steps run, callAfter steps host inst func = .running run ∧
        ∃ later, run.step = .ended later .overflow := by
  constructor
  · rintro ⟨steps, later, ended⟩
    rcases Run.exists_step_of_ended ended with ⟨before, last, reached, stepped⟩
    exact ⟨before, last, reached, later, stepped⟩
  · rintro ⟨steps, run, reached, later, stepped⟩
    exact ⟨steps + 1, later, Run.advance_succ_ended reached stepped⟩

theorem start_overflows_iff {steps : Nat} {inst : Instance} :
    (start steps inst).Overflows host ↔
      ∃ func later, inst.module.start.bind inst.module.callee? = some (.defined func) ∧
        callAfter steps host inst func = .ended later .overflow := by
  simp only [HostM.Overflows, HostM.Stops, outcome_start]
  split
  · rename_i func named
    simp only [named, Option.some.injEq, Callee.defined.injEq, exists_and_left, exists_eq_left']
    rcases callAfter steps host inst func with run | ⟨run, results | abort | _⟩ <;> simp
  · rename_i noFunction
    simp only [Prod.mk.injEq, reduceCtorEq, false_and, exists_false, false_iff]
    rintro ⟨func, later, named, _⟩
    exact noFunction func named

theorem invoke_overflows_iff {steps : Nat} {inst : Instance} {entry : Entry} :
    (invoke steps inst entry).Overflows host ↔
      ∃ later, callAfter steps (host.record (.invoking entry.name)) inst entry.func
        = .ended later .overflow := by
  simp only [HostM.Overflows, HostM.Stops, outcome_invoke]
  rcases callAfter steps (host.record (.invoking entry.name)) inst entry.func with
    run | ⟨run, results | abort | _⟩ <;> simp

/-- Instantiation overflows while the store is made, or in the start function. -/
theorem instantiate_overflows_iff {steps : Nat} {limits : ResourceLimits} {bytes : ByteArray} :
    (instantiate steps limits bytes).Overflows host ↔
      ∃ m linked, ∃ admitted : Host σ, Module.load? bytes = some m ∧
        (admission limits bytes.size m).Yields host linked admitted ∧
        ((makeStore m).Overflows admitted ∨
          ∃ store ready, (makeStore m).Yields admitted store ready ∧
            (start steps ⟨linked, store⟩).Overflows ready) := by
  cases loaded : Module.load? bytes with
  | none => simp [instantiate, loaded, HostM.Overflows, HostM.Stops, HostM.outcome_bind]
  | some m =>
      rw [instantiate_eq steps limits loaded, HostM.bind_overflows_iff]
      constructor
      · rintro (overflows | ⟨linked, admitted, admits, overflows⟩)
        · exact absurd overflows (onlyFails_admission _ _ _).not_overflows
        · refine ⟨m, linked, admitted, rfl, admits, ?_⟩
          rcases HostM.bind_overflows_iff.mp overflows with
            overflows | ⟨store, ready, made, overflows⟩
          · exact .inl overflows
          · refine .inr ⟨store, ready, made, ?_⟩
            rw [HostM.bind_overflows_iff_of_onlyFails] at overflows
            · exact overflows
            · intro inst
              exact .bind .ofGet fun _ => .bind (.ofModify _) fun _ => .pure inst
      · rintro ⟨_, linked, admitted, same, admits, overflows⟩
        simp only [Option.some.injEq] at same
        subst same
        refine .inr ⟨linked, admitted, admits, HostM.bind_overflows_iff.mpr ?_⟩
        rcases overflows with overflows | ⟨store, ready, made, overflows⟩
        · exact .inl overflows
        · exact .inr ⟨store, ready, made, HostM.bind_overflows_iff.mpr (.inl overflows)⟩

end Instantiation

theorem onlyFails_loadArtifact (files : Files) (path : String) :
    (loadArtifact files path : HostM σ Artifact).OnlyFails := by
  simp only [loadArtifact]
  refine .bind (.ofModify _) fun _ => ?_
  split
  · exact .fail _
  · exact .bind (.ofModify _) fun _ => .pure _

theorem Store.memoryBytes_of_single {store : Store} {index : Nat} {memory : Memory}
    (single : store.memories.size ≤ 1) (present : store.memories[index]? = some memory) :
    store.memoryBytes = memory.size := by
  have inside : index < store.memories.size := (Array.getElem?_eq_some_iff.mp present).1
  have size : store.memories.size = 1 := by omega
  rcases Array.size_eq_one_iff.mp size with ⟨only, memories⟩
  have atZero : index = 0 := by omega
  rw [memories, atZero] at present
  simp only [List.getElem?_toArray, List.getElem?_cons_zero, Option.some.injEq] at present
  rw [memoryBytes_eq_sum, memories]
  simp [present]

section Runs

variable [Engine] [Sink σ] {config : Config} {bytes : ByteArray} {first host : Host σ}
  {store : Store} {current desired : Nat} {maximum : Option Nat}

/-- The run of an artifact makes a request to which the limiter has no answer. -/
def Unanswered (config : Config) (bytes : ByteArray) (first : Host σ) : Prop :=
  ∃ host store current desired maximum,
    Requests config bytes first host store current desired maximum ∧
      host.askMemory current desired maximum = none

theorem Calls.unanswered_of_overflow {inst : Instance} {func : Func}
    (calls : Calls config bytes first host inst func) {steps : Nat} {later : Run σ}
    (ended : callAfter steps host inst func = .ended later .overflow) :
    Unanswered config bytes first := by
  rcases callAfter_overflow_iff.mp ⟨steps, later, ended⟩ with ⟨before, run, reached, overflows⟩
  rcases step_overflow_iff.mp overflows with
    ⟨machine, index, pages, memory, asks, present, positive, unanswered⟩
  exact ⟨_, _, _, _, _, .growth calls reached asks present positive, unanswered⟩

theorem unanswered_of_runBytes_overflows {steps : Nat}
    (overflows : (runBytes steps config bytes).Overflows first) :
    Unanswered config bytes first := by
  simp only [runBytes] at overflows
  rcases HostM.bind_overflows_iff.mp overflows with
    overflows | ⟨inst, host, instantiated, overflows⟩
  · rcases instantiate_overflows_iff.mp overflows with
      ⟨m, linked, admitted, loaded, admits, overflows | ⟨store, ready, made, overflows⟩⟩
    · rcases makeStore_overflows_iff.mp overflows with
        ⟨needed, unanswered⟩ | ⟨types, type, rest, store, middle, parts, made, unanswered⟩
      · exact ⟨_, _, _, _, _, .heap loaded admits needed, unanswered⟩
      · exact ⟨_, _, _, _, _, .initial loaded admits parts made, unanswered⟩
    · rcases start_overflows_iff.mp overflows with ⟨func, later, named, ended⟩
      exact (Calls.start ⟨loaded, admits, made, named⟩).unanswered_of_overflow ended
  · rcases HostM.bind_overflows_iff.mp overflows with
      overflows | ⟨entry, resolved, resolves, overflows⟩
    · exact absurd overflows (compositional_onlyFails.resolveEntry _ _).not_overflows
    · rcases invoke_overflows_iff.mp overflows with ⟨later, ended⟩
      exact (Calls.entry instantiated resolves).unanswered_of_overflow ended

theorem runBytes_overflows_of_makeStore {m : Module} {linked : LinkedModule} {admitted : Host σ}
    (steps : Nat) (loaded : Module.load? bytes = some m)
    (admits : (admission config.limits bytes.size m).Yields first linked admitted)
    (overflows : (makeStore m).Overflows admitted) :
    (runBytes steps config bytes).Overflows first :=
  HostM.bind_overflows_iff.mpr
    (.inl (instantiate_overflows_iff.mpr ⟨m, linked, admitted, loaded, admits, .inl overflows⟩))

/-- A run overflows, within enough steps, exactly if it makes a request that is not answered. -/
theorem runBytes_overflows_iff :
    (∃ steps, (runBytes steps config bytes).Overflows first) ↔ Unanswered config bytes first := by
  constructor
  · rintro ⟨steps, overflows⟩
    exact unanswered_of_runBytes_overflows overflows
  · rintro ⟨host, store, current, desired, maximum, request, unanswered⟩
    cases request with
    | heap loaded admits needed =>
        have overflows := makeStore_overflows_iff.mpr (.inl ⟨needed, unanswered⟩)
        exact ⟨0, runBytes_overflows_of_makeStore 0 loaded admits overflows⟩
    | initial loaded admits parts made =>
        have overflows :=
          makeStore_overflows_iff.mpr (.inr ⟨_, _, _, _, _, parts, made, unanswered⟩)
        exact ⟨0, runBytes_overflows_of_makeStore 0 loaded admits overflows⟩
    | growth calls reached asks present positive =>
        have stepped := step_overflow_iff.mpr ⟨_, _, _, _, asks, present, positive, unanswered⟩
        rcases callAfter_overflow_iff.mpr ⟨_, _, reached, stepped⟩ with ⟨steps, later, ended⟩
        cases calls with
        | start starts =>
            rcases starts with ⟨loaded, admits, made, named⟩
            refine ⟨steps, HostM.bind_overflows_iff.mpr (.inl ?_)⟩
            refine instantiate_overflows_iff.mpr ⟨_, _, _, loaded, admits, .inr ⟨_, _, made, ?_⟩⟩
            exact start_overflows_iff.mpr ⟨_, later, named, ended⟩
        | @entry before inst _ _ entry instantiated resolves =>
            -- Instantiation and the call may take different numbers of steps, and both have ended
            -- within the greater one.
            refine ⟨max before steps, ?_⟩
            have instantiatedLater := instantiate_mono instantiated (Nat.le_max_left before steps)
            refine HostM.bind_overflows_iff.mpr (.inr ⟨_, _, instantiatedLater, ?_⟩)
            refine HostM.bind_overflows_iff.mpr (.inr ⟨_, _, resolves, ?_⟩)
            have endedLater := Run.advance_ended_mono ended (Nat.le_max_right before steps)
            exact invoke_overflows_iff.mpr ⟨later, endedLater⟩

theorem Requests.accounted
    (request : Requests config bytes first host store current desired maximum) :
    Accounted config.limits host.limiter store := by
  cases request with
  | heap loaded admits needed =>
      refine ⟨?_, by simp, by simp, by simp, by simp⟩
      rw [(admission_yields admits).limiter]
      exact .ofLimits config.limits
  | initial loaded admits parts made =>
      have admission := admission_yields admits
      have part : _ <+: _ := ⟨_, parts.symm⟩
      exact makeMemories_accounted part admission.counts admission.limiter made
  | @growth _ inst func steps run machine index pages memory calls reached asks present positive =>
      have accounted := callAfter_accounted inst calls.accounted steps func
      have shape := run.machine.step_sameShape
      rw [reached] at accounted
      rw [asks] at shape
      exact Accounted.of_sameShape accounted shape

/-- The sizes of a request fit into a word. -/
theorem Requests.fits (request : Requests config bytes first host store current desired maximum) :
    current < UInt64.size ∧ desired < UInt64.size ∧ ∀ bound ∈ maximum, bound < UInt64.size := by
  have greatest := Engine.greatestRequest_lt_size
  have capacity := memoryBound_le_greatestRequest
  have accounted := request.accounted
  cases request with
  | heap loaded admits needed =>
      refine ⟨by decide, by decide, ?_⟩
      intro bound bound_mem
      simp only [Option.mem_some_iff] at bound_mem
      subst bound_mem
      decide
  | initial loaded admits parts made =>
      exact ⟨by decide, by omega, MemoryType.maximumBytes_lt_size⟩
  | growth calls reached asks present positive =>
      have small := accounted.memorySize _ (Array.mem_of_getElem? present)
      exact ⟨by omega, by omega, MemoryType.maximumBytes_lt_size⟩

/-- Where there is one memory at most, its size is all that the limiter has counted. -/
theorem Requests.memoryBytes_le
    (request : Requests config bytes first host store current desired maximum)
    (single : config.limits.maxMemories ≤ 1) : store.memoryBytes ≤ current := by
  have accounted := request.accounted
  rw [UInt64.le_iff_toNat_le] at single
  have count := accounted.memoryCount
  cases request with
  | heap loaded admits needed => exact Nat.le_refl 0
  | @initial m _ admitted _ _ types rest type loaded admits parts made =>
      have within := (admission_yields admits).counts.memories
      have lengths := congrArg List.length parts
      simp only [Array.length_toList, List.length_append, List.length_cons] at lengths
      have none : types = [] := List.eq_nil_of_length_eq_zero (by simp at single; omega)
      subst none
      rcases HostM.bind_yields_iff.mp made with ⟨_, heaped, heap, made⟩
      simp only [List.mapM_nil, pure_bind, HostM.Yields, HostM.outcome_pure, Prod.mk.injEq,
        Except.ok.injEq] at made
      rw [← made.1]
      exact Nat.le_refl 0
  | growth calls reached asks present positive =>
      have all := Store.memoryBytes_of_single (by simp at single; omega) present
      omega

end Runs

/-- A host that has logged the loading of an artifact. -/
def Host.loading (host : Host σ) (path : String) (size : Nat) : Host σ :=
  (host.record (.artifactOpening path)).record (.artifactLoaded path size)

theorem loadArtifact_yields {files : Files} {path : String} {artifact : Artifact}
    {host after : Host σ} (loads : (loadArtifact files path).Yields host artifact after) :
    files.read path = .ok artifact.bytes ∧ after = host.loading path artifact.bytes.size := by
  simp only [loadArtifact] at loads
  rcases HostM.bind_yields_iff.mp loads with ⟨_, opened, recorded, loads⟩
  simp only [HostM.Yields, HostM.outcome_record, Prod.mk.injEq, true_and] at recorded
  subst recorded
  split at loads
  · simp [HostM.Yields] at loads
  · rename_i bytes readable
    simp only [HostM.Yields, HostM.outcome_bind, HostM.outcome_record, HostM.outcome_pure,
      Prod.mk.injEq, Except.ok.injEq] at loads
    rcases loads with ⟨rfl, rfl⟩
    exact ⟨readable, rfl⟩

theorem unanswered_of_run_overflows [Engine] [Sink σ] {steps : Nat} {config : Config}
    {files : Files} {path : String} {host : Host σ}
    (overflows : (run steps files path config).Overflows host) :
    ∃ bytes, files.read path = .ok bytes ∧
      Unanswered config bytes (host.loading path bytes.size) := by
  rw [run_eq] at overflows
  rcases HostM.bind_overflows_iff.mp overflows with overflows | ⟨artifact, after, loads, overflows⟩
  · exact absurd overflows (onlyFails_loadArtifact _ _).not_overflows
  · rcases loadArtifact_yields loads with ⟨readable, rfl⟩
    exact ⟨artifact.bytes, readable, unanswered_of_runBytes_overflows overflows⟩

namespace Report

theorem exitCode_ofRun {result : Except Stop Completion} {host : Host Console} {report : Report}
    (shown : ofRun result host = .ok report) : report.exitCode ∈ [0, 2, 3, 4, 5] := by
  simp only [ofRun] at shown
  split at shown
  · simp only [Except.ok.injEq] at shown
    subst shown
    simp
  · rename_i error
    simp only [Except.ok.injEq] at shown
    subst shown
    simp only
    cases error.stage <;> decide
  · simp at shown

theorem ofRun_eq_error_iff {result : Except Stop Completion} {host : Host Console} {stop : Stop} :
    ofRun result host = .error stop ↔
      result = .error stop ∧ (stop = .overflow ∨ stop = .unfinished) := by
  rcases result with (error | _ | _) | completion
  · simp only [ofRun, reduceCtorEq, false_iff, Except.error.injEq]
    rintro ⟨rfl, overflow | unfinished⟩ <;> contradiction
  · simp only [ofRun, Except.error.injEq]
    exact ⟨fun same => ⟨same, .inl same.symm⟩, And.left⟩
  · simp only [ofRun, Except.error.injEq]
    exact ⟨fun same => ⟨same, .inr same.symm⟩, And.left⟩
  · simp [ofRun]

/-- A report is that of how the run of the program ends. -/
theorem ofInstalled_eq [Engine] (steps : Nat) (files : Files) (directory : String)
    (console : Console) :
    ofInstalled steps files directory console
      = ofRun ((runInstalled steps files directory).outcome { sink := console }).1
        ((runInstalled steps files directory).outcome { sink := console }).2 :=
  rfl

/-- A run without a report has not ended, or was cut off by an overflow. -/
theorem ofInstalled_eq_error [Engine] {steps : Nat} {files : Files} {directory : String}
    {console : Console} {stop : Stop}
    (noReport : ofInstalled steps files directory console = .error stop) :
    stop = .unfinished ∨
      stop = .overflow ∧ (runInstalled steps files directory).Overflows { sink := console } := by
  rw [ofInstalled_eq] at noReport
  rcases ofRun_eq_error_iff.mp noReport with ⟨ended, rfl | rfl⟩
  · exact .inr ⟨rfl, _, Prod.ext ended rfl⟩
  · exact .inl rfl

end Report

/-- Every request for memory is answered as its exact total says, unless the maximum allows it and
the total does not fit into a word. A run overflows exactly if it makes such a request, which takes
more than one memory. A program that ends has a report with one of the known exit codes, but for one
that makes such a request. -/
theorem request_overflow_exact [Engine] [Sink σ] (config : Config) (bytes : ByteArray)
    (first : Host σ) :
    (∀ host store current desired maximum,
      Requests config bytes first host store current desired maximum →
        (host.askMemory current desired maximum = none ↔
          (∀ bound ∈ maximum, desired ≤ bound) ∧
            UInt64.size ≤ host.limiter.current.toNat + (desired - current)) ∧
        ((∃ after, host.askMemory current desired maximum = some (false, after)) ↔
          (∃ bound ∈ maximum, bound < desired) ∨
            host.limiter.current.toNat + (desired - current) < UInt64.size ∧
              ∃ ceiling ∈ config.limits.maxMemoryBytes,
                ceiling.toNat < host.limiter.current.toNat + (desired - current))) ∧
      ((∃ steps, (runBytes steps config bytes).Overflows first) ↔ Unanswered config bytes first) ∧
      (config.limits.maxMemories ≤ 1 → ¬Unanswered config bytes first) ∧
      ∀ steps files directory console,
        (∃ report, Report.ofInstalled steps files directory console = .ok report ∧
            report.exitCode ∈ [0, 2, 3, 4, 5]) ∨
          Report.ofInstalled steps files directory console = .error .unfinished ∨
          Report.ofInstalled steps files directory console = .error .overflow ∧
            ∃ artifact,
              Files.read files (Artifact.pathIn directory "generated.wasm") = .ok artifact ∧
              Unanswered {} artifact (Host.loading { sink := console }
                (Artifact.pathIn directory "generated.wasm") artifact.size) := by
  refine ⟨?_, runBytes_overflows_iff, ?_, ?_⟩
  · intro host store current desired maximum request
    rcases request.fits with ⟨currentFits, desiredFits, maximumFits⟩
    have balanced := request.accounted.balanced
    rw [balanced.current_eq]
    exact ⟨Host.askMemory_eq_none_iff balanced currentFits desiredFits maximumFits,
      Host.askMemory_denied_iff balanced currentFits desiredFits maximumFits⟩
  · rintro single ⟨host, store, current, desired, maximum, request, unanswered⟩
    rcases request.fits with ⟨currentFits, desiredFits, maximumFits⟩
    have few := request.memoryBytes_le single
    have tooMuch := (Host.askMemory_eq_none_iff request.accounted.balanced currentFits desiredFits
      maximumFits).mp unanswered
    omega
  · intro steps files directory console
    cases shown : Report.ofInstalled steps files directory console with
    | ok report => exact .inl ⟨report, rfl, Report.exitCode_ofRun shown⟩
    | error stop =>
        rcases Report.ofInstalled_eq_error shown with rfl | ⟨rfl, overflows⟩
        · exact .inr (.inl rfl)
        · exact .inr (.inr ⟨rfl, unanswered_of_run_overflows overflows⟩)

/-- A module with a memory of one page and an empty one with 64-bit addresses. Its entry point grows
the second one by the greatest number of pages and prints the answer. -/
def hugeGrowth : ByteArray :=
  ⟨#[0, 97, 115, 109, 1, 0, 0, 0, 1, 8, 2, 96, 1, 127, 0, 96, 0, 0, 2, 15, 1, 3, 101, 110, 118, 7,
    106, 115, 95, 112, 117, 116, 110, 0, 0, 3, 2, 1, 1, 5, 5, 2, 0, 1, 4, 0, 7, 17, 1, 13, 101, 120,
    112, 111, 114, 116, 101, 100, 95, 109, 97, 105, 110, 0, 1, 10, 11, 1, 9, 0, 66, 127, 64, 1, 167,
    16, 0, 11]⟩

section

open PlainEngine

/-- A ceiling that the growth exceeds does not help, because the sum is taken before it is compared.
-/
theorem hugeGrowth_unanswered :
    Unanswered { limits := { maxMemoryBytes := some 1000000 } } hugeGrowth
        { sink := ({} : Recorder) } ∧
      Report.ofInstalled 100 (fun _ => .ok (.ok hugeGrowth)) "/" {} = .error .overflow := by
  have overflow : ((runBytes 100 { limits := { maxMemoryBytes := some 1000000 } }
      hugeGrowth).outcome { sink := ({} : Recorder) }).1 = .error .overflow := by
    decide +kernel
  refine ⟨unanswered_of_runBytes_overflows (HostM.overflows_iff.mpr overflow), ?_⟩
  decide +kernel

end

end WasmHost
