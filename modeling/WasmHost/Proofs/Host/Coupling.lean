import Mathlib
import WasmHost.Proofs.Host.Accounting
import WasmHost.Proofs.Host.Printing

/-!
# Two runs side by side

One module is run twice, with hosts that differ in something that the code cannot see. This file
says when the two runs do the same. It is enough to know it of the few things that are asked of a
host: to log, to print, to let a memory or a table grow, and to take a growth back. A `Coupling` is
a relation between hosts that all of them keep, and `Agree` follows from it for every stage of a
run.

The answers to a request for memory may differ in one way. The first host approves growth that the
engine then cannot provide, and takes it back, while the second one denies it: the code gets minus
one in both runs, and the hosts are related again. But if the engine does provide the growth, the
runs part. This is why a coupling also says which limiters are beyond comparison. A limiter that has
approved what the other one denies is beyond, and once it is so after a step it stays so, which
makes it enough to look at the limiter at the end of a run.

Hosts that differ in their sinks alone answer every request in the same way, so they are coupled,
without any limiter beyond, as soon as their sinks answer alike.
-/

namespace WasmHost

open Instantiation

variable {σ τ : Type}

section Stages

variable [Engine] [Sink σ]

/-- The stages of a run after the host has been given a new limiter. -/
def runFresh (steps : Nat) (config : Config) (bytes : ByteArray) : HostM σ Completion := do
  let inst ← instantiateFresh steps config.limits bytes
  let entry ← resolveEntry config.entryPoint inst
  invoke steps inst entry

theorem outcome_runBytes (steps : Nat) (config : Config) (bytes : ByteArray) (host : Host σ) :
    (runBytes steps config bytes).outcome host
      = (runFresh steps config bytes).outcome (host.fresh config.limits) := by
  simp only [runBytes, runFresh, HostM.outcome_bind, outcome_instantiate]

end Stages

/-- Two runs have come to the same machine, and to the same ending if they have ended. -/
inductive Progress.Coupled (related : Host σ → Host τ → Prop) : Progress σ → Progress τ → Prop
  | running {host : Host σ} {other : Host τ} (machine : Machine) (hosts : related host other) :
      Coupled related (.running ⟨host, machine⟩) (.running ⟨other, machine⟩)
  | ended {host : Host σ} {other : Host τ} (machine : Machine) (ending : Ending)
      (hosts : related host other) :
      Coupled related (.ended ⟨host, machine⟩ ending) (.ended ⟨other, machine⟩ ending)

/-- Two answers to a request for memory: they are the same, or the first one is an approval that
leads back to the second one when it is taken back. -/
inductive Host.Answers [Engine] (related : Host σ → Host τ → Prop) (beyond : Limiter → Prop)
    (desired : Nat) : Option (Bool × Host σ) → Option (Bool × Host τ) → Prop
  | overflow : Answers related beyond desired none none
  | same (approved : Bool) {after : Host σ} {other : Host τ} (hosts : related after other) :
      Answers related beyond desired (some (approved, after)) (some (approved, other))
  | undone {after : Host σ} {other : Host τ} (parted : beyond after.limiter)
      (hosts : related (after.growthFailed desired) other) :
      Answers related beyond desired (some (true, after)) (some (false, other))

/-- A relation between hosts that is kept by all that is asked of a host, unless the limiter of the
first one goes beyond what the second one can follow. -/
structure Coupling (σ τ : Type) [Engine] [Sink σ] [Sink τ] where
  related : Host σ → Host τ → Prop
  beyond : Limiter → Prop
  calls : ∀ {host other}, related host other → host.calls = other.calls
  current : ∀ {host other}, related host other → host.limiter.current = other.limiter.current
  peak : ∀ {host other}, related host other → host.limiter.peak = other.limiter.peak
  record : ∀ {host other}, related host other → ∀ event,
    related (host.record event) (other.record event)
  emit : ∀ {host other}, related host other → ∀ value,
    (host.emit value).1 = (other.emit value).1 ∧ related (host.emit value).2 (other.emit value).2
  askMemory : ∀ {host other}, related host other → ∀ current desired maximum,
    Host.Answers related beyond desired (host.askMemory current desired maximum)
      (other.askMemory current desired maximum)
  growthFailed : ∀ {host other}, related host other → ∀ desired,
    related (host.growthFailed desired) (other.growthFailed desired)
  askTable : ∀ {host other}, related host other → ∀ desired,
    host.askTable desired = other.askTable desired
  beyond_settled : ∀ {limiter}, beyond limiter → beyond limiter.settled
  beyond_approving : ∀ {limiter}, beyond limiter → ∀ current desired,
    beyond (limiter.approving current desired)

namespace Coupling

variable [Engine] [Sink σ] [Sink τ] (coupling : Coupling σ τ) {host : Host σ} {other : Host τ}

section Limiter

variable {after : Host σ} {current desired : Nat} {maximum : Option Nat} {approved : Bool}

theorem beyond_askMemory (parted : coupling.beyond host.limiter)
    (answer : host.askMemory current desired maximum = some (approved, after)) :
    coupling.beyond after.limiter := by
  rcases Host.exists_verdict answer with ⟨verdict, verdictEq, _, limiterEq⟩
  have decision := host.limiter.memoryGrowing_decision (.ofNat current) (.ofNat desired)
    (maximum.map .ofNat)
  rw [verdictEq] at decision
  rw [← limiterEq]
  cases decision with
  | overMaximum bound declared exceeds => exact coupling.beyond_settled parted
  | overCeiling allowed fits ceiling configured exceeds => exact coupling.beyond_settled parted
  | approved allowed fits below => exact coupling.beyond_approving parted _ _

theorem beyond_growthFailed (parted : coupling.beyond host.limiter)
    (answer : host.askMemory current desired maximum = some (true, after)) :
    coupling.beyond (after.growthFailed desired).limiter := by
  rcases Host.exists_verdict answer with ⟨verdict, verdictEq, approved, limiterEq⟩
  have takenBack := Limiter.memoryGrowFailed_of_approved verdictEq approved
  simp only [Host.growthFailed]
  rw [← limiterEq, takenBack]
  exact coupling.beyond_settled parted

end Limiter

section Steps

/-- The two runs do the same, or the first one has gone beyond the other. -/
def Lockstep (progress : Progress σ) (other : Progress τ) : Prop :=
  coupling.beyond progress.state.host.limiter ∨ progress.Coupled coupling.related other

theorem beyond_growMemory (parted : coupling.beyond host.limiter) (machine : Machine)
    (index pages : Nat) :
    coupling.beyond (Run.growMemory host machine index pages).state.host.limiter := by
  simp only [Run.growMemory]
  split
  · exact parted
  · split
    · exact parted
    · split
      · exact parted
      · rename_i answer
        exact coupling.beyond_askMemory parted answer
      · rename_i answer
        split
        · exact coupling.beyond_askMemory parted answer
        · exact coupling.beyond_growthFailed parted answer

theorem growMemory_lockstep (hosts : coupling.related host other) (machine : Machine)
    (index pages : Nat) :
    coupling.Lockstep (Run.growMemory host machine index pages)
      (Run.growMemory other machine index pages) := by
  simp only [Run.growMemory]
  cases machine.store.memories[index]? with
  | none => exact .inr (.ended machine _ hosts)
  | some memory =>
      by_cases nothing : pages = 0
      · simp only [nothing, if_true]
        exact .inr (.running _ hosts)
      · simp only [nothing, if_false]
        generalize min (memory.size + pages * pageSize) Engine.greatestRequest = desired
        have answers := coupling.askMemory hosts memory.size desired memory.type.maximumBytes
        generalize host.askMemory memory.size desired memory.type.maximumBytes = answer at answers ⊢
        generalize other.askMemory memory.size desired memory.type.maximumBytes = reply at answers ⊢
        cases answers with
        | overflow => exact .inr (.ended machine _ hosts)
        | same approved hostsAfter =>
            cases approved with
            | false => exact .inr (.running _ hostsAfter)
            | true =>
                simp only
                split
                · exact .inr (.running _ hostsAfter)
                · exact .inr (.running _ (coupling.growthFailed hostsAfter desired))
        | undone parted hostsAfter =>
            -- If the engine has no room, the first host comes back to where the second one is.
            simp only
            split
            · exact .inl parted
            · exact .inr (.running _ hostsAfter)

theorem growTable_lockstep (hosts : coupling.related host other) (machine : Machine)
    (index n : Nat) (ref : Ref) :
    coupling.Lockstep (Run.growTable host machine index n ref)
      (Run.growTable other machine index n ref) := by
  simp only [Run.growTable, coupling.askTable hosts]
  split
  · exact .inr (.ended machine _ hosts)
  · split
    · exact .inr (.running _ hosts)
    · split <;> exact .inr (.running _ hosts)

theorem emit_lockstep (hosts : coupling.related host other) (machine : Machine) (value : UInt32) :
    coupling.Lockstep (Run.emit host machine value) (Run.emit other machine value) := by
  rcases coupling.emit hosts value.toInt32 with ⟨sameFault, hostsAfter⟩
  simp only [Run.emit]
  generalize host.emit value.toInt32 = emitted at sameFault hostsAfter ⊢
  generalize other.emit value.toInt32 = emittedOther at sameFault hostsAfter ⊢
  rcases emitted with ⟨fault, after⟩
  rcases emittedOther with ⟨_, afterOther⟩
  simp only at sameFault
  subst sameFault
  cases fault with
  | none => exact .inr (.running machine hostsAfter)
  | some fault => exact .inr (.ended machine _ hostsAfter)

theorem beyond_step (run : Run σ) (parted : coupling.beyond run.host.limiter) :
    coupling.beyond run.step.state.host.limiter := by
  cases stepped : run.machine.step with
  | next machine => simpa only [Run.step, stepped, Progress.state] using parted
  | done machine results => simpa only [Run.step, stepped, Progress.state] using parted
  | trap machine reason => simpa only [Run.step, stepped, Progress.state] using parted
  | emit machine value =>
      rw [Run.step_of_emit stepped]
      rcases Sink.emit run.host.sink value.toInt32 with ⟨_ | fault, sink⟩ <;> exact parted
  | growMemory machine index pages =>
      simp only [Run.step, stepped]
      exact coupling.beyond_growMemory parted machine index pages
  | growTable machine index n ref =>
      simp only [Run.step, stepped, Run.growTable_keeps]
      exact parted

/-- One step keeps related hosts related, or the first one goes beyond. -/
theorem step_lockstep (hosts : coupling.related host other) (machine : Machine) :
    coupling.Lockstep (Run.step ⟨host, machine⟩) (Run.step ⟨other, machine⟩) := by
  simp only [Run.step]
  cases machine.step with
  | next later => exact .inr (.running later hosts)
  | done later results => exact .inr (.ended later _ hosts)
  | trap later reason => exact .inr (.ended later _ hosts)
  | emit later value => exact coupling.emit_lockstep hosts later value
  | growMemory later index pages => exact coupling.growMemory_lockstep hosts later index pages
  | growTable later index n ref => exact coupling.growTable_lockstep hosts later index n ref

theorem beyond_advance (steps : Nat) {run : Run σ} (parted : coupling.beyond run.host.limiter) :
    coupling.beyond (run.advance steps).state.host.limiter :=
  Run.advance_invariant coupling.beyond_step steps parted

/-- So does any number of steps. -/
theorem advance_lockstep (steps : Nat) (hosts : coupling.related host other) (machine : Machine) :
    coupling.Lockstep (Run.advance steps ⟨host, machine⟩) (Run.advance steps ⟨other, machine⟩) := by
  induction steps generalizing host other machine with
  | zero => exact .inr (.running machine hosts)
  | succ steps ih =>
      have first := coupling.step_lockstep hosts machine
      simp only [Run.advance]
      generalize Run.step ⟨host, machine⟩ = progress at first ⊢
      generalize Run.step ⟨other, machine⟩ = progressOther at first ⊢
      rcases first with parted | coupled
      · left
        cases progress with
        | running run => exact coupling.beyond_advance steps parted
        | ended run ending => exact parted
      · cases coupled with
        | running later hostsAfter => exact ih hostsAfter later
        | ended later ending hostsAfter => exact .inr (.ended later ending hostsAfter)

end Steps

/-- Two computations with related hosts have the same result and leave related hosts, unless the
limiter of the first one has gone beyond. -/
structure Agree {α : Type} (x : HostM σ α) (y : HostM τ α) : Prop where
  beyond : ∀ host, coupling.beyond host.limiter → coupling.beyond (x.outcome host).2.limiter
  same : ∀ {host other}, coupling.related host other →
    coupling.beyond (x.outcome host).2.limiter ∨
      (x.outcome host).1 = (y.outcome other).1 ∧
        coupling.related (x.outcome host).2 (y.outcome other).2

namespace Agree

variable {coupling} {α β γ : Type}

theorem ofHostFree {x : (σ : Type) → HostM σ α} (free : HostFree x) :
    coupling.Agree (x σ) (x τ) := by
  rcases free with ⟨result, outcome⟩
  refine ⟨?_, ?_⟩
  · intro host parted
    rwa [outcome σ host]
  · intro host other hosts
    rw [outcome σ host, outcome τ other]
    exact .inr ⟨rfl, hosts⟩

theorem pure (value : α) :
    coupling.Agree (Pure.pure value : HostM σ α) (Pure.pure value : HostM τ α) :=
  ofHostFree (.pure value)

theorem fail (error : Error) :
    coupling.Agree (HostM.fail error : HostM σ α) (HostM.fail error : HostM τ α) :=
  ofHostFree (.fail error)

theorem record (event : Event) :
    coupling.Agree (HostM.record event : HostM σ Unit) (HostM.record event : HostM τ Unit) :=
  ⟨fun _ parted => parted, fun hosts => .inr ⟨rfl, coupling.record hosts event⟩⟩

theorem bind {x : HostM σ α} {y : HostM τ α} {next : α → HostM σ β} {nextOther : α → HostM τ β}
    (first : coupling.Agree x y) (rest : ∀ value, coupling.Agree (next value) (nextOther value)) :
    coupling.Agree (x >>= next) (y >>= nextOther) := by
  have beyond : ∀ host, coupling.beyond (x.outcome host).2.limiter →
      coupling.beyond ((x >>= next).outcome host).2.limiter := by
    intro host parted
    rw [HostM.outcome_bind]
    generalize x.outcome host = outcome at parted ⊢
    rcases outcome with ⟨stop | value, middle⟩
    · exact parted
    · exact (rest value).beyond middle parted
  refine ⟨fun host parted => beyond host (first.beyond host parted), ?_⟩
  intro host other hosts
  rcases first.same hosts with parted | ⟨sameResult, hostsAfter⟩
  · exact .inl (beyond host parted)
  · simp only [HostM.outcome_bind]
    generalize x.outcome host = outcome at sameResult hostsAfter ⊢
    generalize y.outcome other = outcomeOther at sameResult hostsAfter ⊢
    rcases outcome with ⟨result, middle⟩
    rcases outcomeOther with ⟨_, middleOther⟩
    simp only at sameResult
    subst sameResult
    cases result with
    | error stop => exact .inr ⟨rfl, hostsAfter⟩
    | ok value => exact (rest value).same hostsAfter

theorem compositional (coupling : Coupling σ τ) :
    Compositional fun _ x => coupling.Agree (x σ) (x τ) :=
  ⟨ofHostFree, fun _ => record _, bind⟩

/-- What is read off related hosts and is the same for both may be used. -/
theorem look {seen : Host σ → γ} {seenOther : Host τ → γ} {next : γ → HostM σ α}
    {nextOther : γ → HostM τ α}
    (same : ∀ {host other}, coupling.related host other → seen host = seenOther other)
    (rest : ∀ value, coupling.Agree (next value) (nextOther value)) :
    coupling.Agree (get >>= fun host => next (seen host))
      (get >>= fun other => nextOther (seenOther other)) := by
  refine ⟨fun host parted => (rest (seen host)).beyond host parted, ?_⟩
  intro host other hosts
  simp only [HostM.outcome_bind, HostM.outcome_get]
  rw [same hosts]
  exact (rest (seenOther other)).same hosts

end Agree

section Stages

theorem agree_makeMemory (type : MemoryType) :
    coupling.Agree (makeMemory type) (makeMemory type) := by
  refine ⟨?_, ?_⟩
  · intro host parted
    simp only [makeMemory, HostM.outcome_bind, HostM.outcome_get]
    split
    · exact parted
    · rename_i answer
      have partedAfter := coupling.beyond_askMemory parted answer
      simp only [HostM.outcome_bind, HostM.outcome_set]
      split
      · split
        · exact partedAfter
        · split <;> exact partedAfter
      · exact partedAfter
  · intro host other hosts
    simp only [makeMemory, HostM.outcome_bind, HostM.outcome_get]
    have answers := coupling.askMemory hosts 0
      (min (type.minimum * pageSize) Engine.greatestRequest) type.maximumBytes
    generalize host.askMemory 0 (min (type.minimum * pageSize) Engine.greatestRequest)
      type.maximumBytes = answer at answers ⊢
    generalize other.askMemory 0 (min (type.minimum * pageSize) Engine.greatestRequest)
      type.maximumBytes = reply at answers ⊢
    cases answers with
    | overflow => exact .inr ⟨rfl, hosts⟩
    | same approved hostsAfter =>
        simp only [HostM.outcome_bind, HostM.outcome_set]
        split
        · split
          · exact .inr ⟨rfl, hostsAfter⟩
          · split <;> exact .inr ⟨rfl, hostsAfter⟩
        · exact .inr ⟨rfl, hostsAfter⟩
    | undone parted hostsAfter =>
        -- A memory that cannot be made is not taken back, so the first limiter is beyond for good.
        left
        simp only [HostM.outcome_bind, HostM.outcome_set]
        split
        · split
          · exact parted
          · split <;> exact parted
        · exact parted

theorem agree_makeTable (type : TableType) :
    coupling.Agree (makeTable type) (makeTable type) := by
  refine ⟨?_, ?_⟩
  · intro host parted
    simp only [makeTable, HostM.outcome_bind, HostM.outcome_get]
    split
    · split <;> exact parted
    · exact parted
  · intro host other hosts
    simp only [makeTable, HostM.outcome_bind, HostM.outcome_get, coupling.askTable hosts]
    split
    · split <;> exact .inr ⟨rfl, hosts⟩
    · exact .inr ⟨rfl, hosts⟩

theorem agree_call (steps : Nat) (inst : Instance) (func : Func) :
    coupling.Agree (call steps inst func) (call steps inst func) := by
  refine ⟨?_, ?_⟩
  · intro host parted
    have partedAfter : coupling.beyond (callAfter steps host inst func).state.host.limiter :=
      coupling.beyond_advance steps parted
    rw [outcome_call]
    generalize callAfter steps host inst func = progress at partedAfter ⊢
    rcases progress with run | ⟨run, results | abort | _⟩ <;> exact partedAfter
  · intro host other hosts
    have lockstep : coupling.Lockstep (callAfter steps host inst func)
        (callAfter steps other inst func) :=
      coupling.advance_lockstep steps hosts (.ofCall inst func)
    rw [outcome_call, outcome_call]
    generalize callAfter steps host inst func = progress at lockstep ⊢
    generalize callAfter steps other inst func = progressOther at lockstep ⊢
    rcases lockstep with parted | coupled
    · left
      rcases progress with run | ⟨run, results | abort | _⟩ <;> exact parted
    · right
      cases coupled with
      | running machine hostsAfter => exact ⟨rfl, hostsAfter⟩
      | ended machine ending hostsAfter => cases ending <;> exact ⟨rfl, hostsAfter⟩

theorem agree_start (steps : Nat) (inst : Instance) :
    coupling.Agree (start steps inst) (start steps inst) := by
  simp only [start]
  split
  · refine .bind (coupling.agree_call steps inst _) fun result => ?_
    split
    · exact .pure _
    · exact .fail _
  · exact .pure inst

theorem agree_instantiateFresh (steps : Nat) (limits : ResourceLimits) (bytes : ByteArray) :
    coupling.Agree (instantiateFresh steps limits bytes) (instantiateFresh steps limits bytes) := by
  simp only [instantiateFresh]
  refine .bind (.record _) fun _ => ?_
  split
  · exact .fail _
  · rename_i m _
    have parts := Agree.compositional coupling
    refine .bind (parts.checkImports _) fun _ => ?_
    refine .bind (parts.sequential.addToLinker _) fun linker => ?_
    refine .bind (parts.sequential.link linker m) fun linked => ?_
    refine .bind (parts.sequential.checkCounts m limits) fun _ => ?_
    refine .bind
      (parts.sequential.makeStore coupling.agree_makeMemory coupling.agree_makeTable m) ?_
    intro store
    refine .bind (coupling.agree_start steps ⟨linked, store⟩) fun inst => ?_
    exact .look coupling.current fun current => .bind (.record _) fun _ => .pure inst

theorem agree_resolveEntry (name : String) (inst : Instance) :
    coupling.Agree (resolveEntry name inst) (resolveEntry name inst) :=
  (Agree.compositional coupling).resolveEntry name inst

theorem agree_invoke (steps : Nat) (inst : Instance) (entry : Entry) :
    coupling.Agree (invoke steps inst entry) (invoke steps inst entry) := by
  simp only [invoke, entry.callChecked_eq]
  refine .bind (.record _) fun _ => ?_
  refine .bind (.bind (coupling.agree_call steps inst entry.func) fun _ => .pure _) fun result => ?_
  have report : coupling.Agree
      (do let host ← get; pure ⟨host.calls, host.limiter.peak⟩ : HostM σ Completion)
      (do let host ← get; pure ⟨host.calls, host.limiter.peak⟩) := by
    refine .look (fun hosts => ?_) fun completion => .pure completion
    rw [coupling.calls hosts, coupling.peak hosts]
  split
  · exact .bind (.record _) fun _ => .fail _
  · split
    · exact .bind (.record _) fun _ => report
    · exact .bind (.pure ()) fun _ => report

theorem agree_runFresh (steps : Nat) (config : Config) (bytes : ByteArray) :
    coupling.Agree (runFresh steps config bytes) (runFresh steps config bytes) := by
  simp only [runFresh]
  refine .bind (coupling.agree_instantiateFresh steps config.limits bytes) fun inst => ?_
  refine .bind (coupling.agree_resolveEntry config.entryPoint inst) fun entry => ?_
  exact coupling.agree_invoke steps inst entry

end Stages

end Coupling

section Sinks

/-- The hosts differ in nothing but their sinks, and in what the first one had logged before. -/
structure Host.Matches (sinks : σ → τ → Prop) (before : Array Event) (host : Host σ)
    (other : Host τ) : Prop where
  limiter : host.limiter = other.limiter
  calls : host.calls = other.calls
  events : host.events = before ++ other.events
  sink : sinks host.sink other.sink

namespace Host.Matches

variable {sinks : σ → τ → Prop} {before : Array Event} {host : Host σ} {other : Host τ}

theorem fresh (limits : ResourceLimits) (hosts : host.Matches sinks before other) :
    (host.fresh limits).Matches sinks before (other.fresh limits) :=
  ⟨rfl, rfl, hosts.events, hosts.sink⟩

theorem push (hosts : host.Matches sinks before other) (event : Event) :
    host.events.push event = before ++ other.events.push event := by
  rw [hosts.events, Array.append_push]

theorem record (hosts : host.Matches sinks before other) (event : Event) :
    (host.record event).Matches sinks before (other.record event) :=
  ⟨hosts.limiter, hosts.calls, hosts.push event, hosts.sink⟩

theorem askMemory [Engine] (hosts : host.Matches sinks before other) (current desired : Nat)
    (maximum : Option Nat) :
    Host.Answers (Host.Matches sinks before) (fun _ => False) desired
      (host.askMemory current desired maximum) (other.askMemory current desired maximum) := by
  simp only [Host.askMemory, hosts.limiter]
  cases other.limiter.memoryGrowing (.ofNat current) (.ofNat desired) (maximum.map .ofNat) with
  | none => exact .overflow
  | some verdict =>
      exact .same verdict.approved ⟨rfl, hosts.calls, hosts.push verdict.event, hosts.sink⟩

theorem growthFailed [Engine] (hosts : host.Matches sinks before other) (desired : Nat) :
    (host.growthFailed desired).Matches sinks before (other.growthFailed desired) := by
  refine ⟨?_, hosts.calls, hosts.push _, hosts.sink⟩
  simp only [Host.growthFailed, hosts.limiter]

end Host.Matches

variable [Sink σ] [Sink τ]

/-- Related sinks accept and refuse the same numbers, and are related after them. -/
def Sink.Answers (sinks : σ → τ → Prop) : Prop :=
  ∀ {sink other}, sinks sink other → ∀ value, ∃ fault after otherAfter,
    Sink.emit sink value = (fault, after) ∧ Sink.emit other value = (fault, otherAfter) ∧
      sinks after otherAfter

theorem Host.Matches.emit {sinks : σ → τ → Prop} {before : Array Event} {host : Host σ}
    {other : Host τ} (answers : Sink.Answers sinks) (hosts : host.Matches sinks before other)
    (value : Int32) :
    (host.emit value).1 = (other.emit value).1 ∧
      (host.emit value).2.Matches sinks before (other.emit value).2 := by
  rcases answers hosts.sink value with ⟨fault, after, otherAfter, emitted, otherEmitted, sink⟩
  simp only [Host.emit, emitted, otherEmitted, true_and]
  exact ⟨hosts.limiter, congrArg (· + 1) hosts.calls, hosts.push _, sink⟩

/-- The coupling of runs that differ in nothing but their sinks. -/
def Coupling.ofSinks [Engine] {sinks : σ → τ → Prop} (answers : Sink.Answers sinks)
    (before : Array Event) :
    Coupling σ τ where
  related := Host.Matches sinks before
  beyond _ := False
  calls hosts := hosts.calls
  current hosts := by rw [hosts.limiter]
  peak hosts := by rw [hosts.limiter]
  record hosts := hosts.record
  emit hosts := hosts.emit answers
  askMemory hosts := hosts.askMemory
  growthFailed hosts := hosts.growthFailed
  askTable hosts desired := by simp only [Host.askTable, hosts.limiter]
  beyond_settled parted := parted
  beyond_approving parted _ _ := parted

/-- No limiter is beyond this coupling, so all that is done with the two hosts is the same. -/
theorem Host.Matches.outcome [Engine] {sinks : σ → τ → Prop} (answers : Sink.Answers sinks)
    {before : Array Event} {host : Host σ} {other : Host τ} {α : Type} {x : HostM σ α}
    {y : HostM τ α} (agree : (Coupling.ofSinks answers before).Agree x y)
    (hosts : host.Matches sinks before other) :
    ∃ result hostAfter otherAfter, x.outcome host = (result, hostAfter) ∧
      y.outcome other = (result, otherAfter) ∧ hostAfter.Matches sinks before otherAfter := by
  rcases agree.same hosts with parted | ⟨same, hostsAfter⟩
  · exact parted.elim
  · exact ⟨(x.outcome host).1, (x.outcome host).2, (y.outcome other).2, rfl,
      Prod.ext same.symm rfl, hostsAfter⟩

end Sinks

end WasmHost
