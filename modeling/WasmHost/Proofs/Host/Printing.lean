import Mathlib
import WasmHost.Proofs.Host.Echo
import WasmHost.Proofs.Host.Stages

/-!
# Computations that print

Most parts of a run do not print at all. They are `Silent`: a host with another sink in its place
comes out of them with the other sink in its place. The others print what the code prints that they
run. `Prints` says of a computation that it prints some numbers to a recorder that accepts
everything, and that with another sink it does the same until the sink refuses one of these numbers.
It then stops as the computation does that ran the code: a start function makes instantiation fail,
an entry point is trapped.
-/

namespace WasmHost

/-- A computation that exists for every kind of sink, takes no notice of it and makes no host call.
-/
def Silent {α : Type} (x : (σ : Type) → HostM σ α) : Prop :=
  ∀ (σ τ : Type) (host : Host σ) (sink : τ),
    ((x σ).outcome host).2.calls = host.calls ∧
      (x τ).outcome (host.withSink sink)
        = (((x σ).outcome host).1, ((x σ).outcome host).2.withSink sink)

namespace Silent

variable {α β : Type}

theorem ofHostFree {x : (σ : Type) → HostM σ α} (free : HostFree x) : Silent x := by
  rcases free with ⟨result, outcome⟩
  intro σ τ host sink
  simp [outcome]

theorem pure (value : α) : Silent fun σ => (Pure.pure value : HostM σ α) :=
  ofHostFree (.pure value)

theorem fail (error : Error) : Silent fun σ => (HostM.fail error : HostM σ α) :=
  ofHostFree (.fail error)

theorem record (event : Event) : Silent fun σ => (HostM.record event : HostM σ Unit) := by
  intro σ τ host sink
  exact ⟨rfl, rfl⟩

theorem bind {x : (σ : Type) → HostM σ α} {next : (σ : Type) → α → HostM σ β} (first : Silent x)
    (rest : ∀ value, Silent fun σ => next σ value) : Silent fun σ => x σ >>= next σ := by
  intro σ τ host sink
  rcases first σ τ host sink with ⟨calls, other⟩
  rcases outcome : (x σ).outcome host with ⟨stop | value, middle⟩
  · rw [outcome] at calls other
    simp only [HostM.outcome_bind, outcome, other]
    exact ⟨calls, trivial⟩
  · rw [outcome] at calls other
    simp only [HostM.outcome_bind, outcome, other]
    rcases rest value σ τ middle sink with ⟨callsRest, otherRest⟩
    exact ⟨callsRest.trans calls, otherRest⟩

theorem compositional : Compositional fun _ x => Silent x :=
  ⟨ofHostFree, fun _ => record _, bind⟩

theorem sink_eq {x : (σ : Type) → HostM σ α} (silent : Silent x) {σ : Type} (host : Host σ) :
    ((x σ).outcome host).2.sink = host.sink := by
  have same := (silent σ σ host host.sink).2
  rw [Host.withSink_self] at same
  rw [same]
  rfl

end Silent

/-- What a computation does with another sink, given what it does and prints with a recorder. If the
other sink refuses a number, it stops with the machine that has printed the number. -/
structure HostM.Echoes {α σ : Type} (stop : Machine → IoError → Stop) (x : HostM Recorder α)
    (y : HostM σ α) (host : Host Recorder) (values : List Int32) [Sink σ] (sink : σ) : Prop where
  accepted : (Sink.feed sink values).fault = none →
    y.outcome (host.withSink sink)
      = ((x.outcome host).1, (x.outcome host).2.withSink (Sink.feed sink values).sink)
  refused : ∀ fault, (Sink.feed sink values).fault = some fault →
    ∃ machine after, y.Stops (host.withSink sink) (stop machine fault) after ∧
      after.sink = (Sink.feed sink values).sink ∧
      after.calls = host.calls + (Sink.feed sink values).calls

/-- A computation that exists for every kind of sink. It prints some numbers to a recorder that
accepts everything, and with another sink it does the same up to the first of them that the sink
refuses. -/
def Prints {α : Type} (stop : Machine → IoError → Stop) (x : (σ : Type) → [Sink σ] → HostM σ α) :
    Prop :=
  ∀ host : Host Recorder, host.sink.capacity = none →
    ∃ values, host.Printed ((x Recorder).outcome host).2 values ∧
      ∀ (σ : Type) [Sink σ] (sink : σ), (x Recorder).Echoes stop (x σ) host values sink

theorem Silent.prints {α : Type} {x : (σ : Type) → HostM σ α} (silent : Silent x)
    (stop : Machine → IoError → Stop) : Prints stop fun σ _ => x σ := by
  intro host _
  refine ⟨[], .nothing (silent.sink_eq host) (silent Recorder Recorder host host.sink).1, ?_⟩
  intro σ _ sink
  refine ⟨?_, ?_⟩
  · intro _
    exact (silent Recorder σ host sink).2
  · intro fault refused
    simp [Sink.feed] at refused

/-- A sequence prints what its parts print, one after the other. -/
theorem Prints.bind {α β : Type} {stop : Machine → IoError → Stop}
    {x : (σ : Type) → [Sink σ] → HostM σ α} {next : (σ : Type) → [Sink σ] → α → HostM σ β}
    (first : Prints stop x) (rest : ∀ value, Prints stop fun σ _ => next σ value) :
    Prints stop fun σ _ => x σ >>= next σ := by
  intro host free
  rcases first host free with ⟨values, printed, echoes⟩
  rcases outcome : (x Recorder).outcome host with ⟨early | value, middle⟩
  · rw [outcome] at printed
    refine ⟨values, by simpa only [HostM.outcome_bind, outcome] using printed, ?_⟩
    intro σ _ sink
    refine ⟨?_, ?_⟩
    · intro accepted
      simp only [HostM.outcome_bind, outcome, (echoes σ sink).accepted accepted]
    · intro fault refused
      rcases (echoes σ sink).refused fault refused with ⟨machine, after, stops, same, calls⟩
      exact ⟨machine, after, stops.bind, same, calls⟩
  · rw [outcome] at printed
    rcases rest value middle (printed.unlimited free) with ⟨more, printedRest, echoesRest⟩
    refine ⟨values ++ more, ?_, ?_⟩
    · simp only [HostM.outcome_bind, outcome]
      exact printed.append printedRest
    · intro σ _ sink
      -- Whether the sink still accepts when the second part begins decides where it stops.
      cases fed : (Sink.feed sink values).fault with
      | none =>
          have other := (echoes σ sink).accepted fed
          have both := Sink.feed_append_of_accepted more fed
          have callsFirst := Sink.calls_feed_of_accepted fed
          rw [outcome] at other
          refine ⟨?_, ?_⟩
          · intro accepted
            rw [both] at accepted ⊢
            simp only [HostM.outcome_bind, outcome, other]
            exact (echoesRest σ _).accepted accepted
          · intro fault refused
            rw [both] at refused ⊢
            rcases (echoesRest σ _).refused fault refused with ⟨machine, after, stops, same, calls⟩
            refine ⟨machine, after, ?_, same, ?_⟩
            · exact HostM.bind_stops_iff.mpr (.inr ⟨value, _, other, stops⟩)
            · rw [calls, printed.calls, callsFirst, Nat.add_assoc]
      | some fault =>
          have both := Sink.feed_append_of_refused more fed
          refine ⟨?_, ?_⟩
          · intro accepted
            rw [both, fed] at accepted
            simp at accepted
          · intro other refused
            rw [both] at refused ⊢
            rcases (echoes σ sink).refused other refused with ⟨machine, after, stops, same, calls⟩
            exact ⟨machine, after, stops.bind, same, calls⟩

variable [Engine]

namespace Instantiation

theorem silent_makeMemory (type : MemoryType) :
    Silent fun σ => (makeMemory type : HostM σ Memory) := by
  intro σ τ host sink
  simp only [makeMemory, HostM.outcome_bind, HostM.outcome_get, Host.askMemory_withSink]
  cases answer : host.askMemory 0 (min (type.minimum * pageSize) Engine.greatestRequest)
      type.maximumBytes with
  | none => exact ⟨rfl, rfl⟩
  | some given =>
      rcases given with ⟨approved, after⟩
      have kept := (Host.askMemory_keeps answer).2
      simp only [Option.map_some, HostM.outcome_bind, HostM.outcome_set]
      split
      · split
        · exact ⟨kept, rfl⟩
        · split
          · exact ⟨kept, rfl⟩
          · exact ⟨kept, rfl⟩
      · exact ⟨kept, rfl⟩

theorem silent_makeTable (type : TableType) : Silent fun σ => (makeTable type : HostM σ Table) := by
  intro σ τ host sink
  simp only [makeTable, HostM.outcome_bind, HostM.outcome_get]
  have asked : (host.withSink sink).askTable type.minimum = host.askTable type.minimum := rfl
  rw [asked]
  split
  · split
    · exact ⟨rfl, rfl⟩
    · exact ⟨rfl, rfl⟩
  · exact ⟨rfl, rfl⟩

theorem silent_makeStore (m : Module) : Silent fun σ => (makeStore m : HostM σ Store) :=
  Silent.compositional.sequential.makeStore silent_makeMemory silent_makeTable m

end Instantiation

/-- How instantiation stops when the sink refuses a number of the start function. -/
def Stop.startRefused (machine : Machine) (fault : IoError) : Stop :=
  .failed (.rejected (.failed (.aborted (Engine.backtrace machine) (.sink fault))))

/-- How a run stops when the sink refuses a number of the entry point. -/
def Stop.entryRefused (entry : String) (machine : Machine) (fault : IoError) : Stop :=
  .failed (.trapped entry (Failure.aborted (Engine.backtrace machine) (.sink fault)).reason)

/-- What becomes of a call: a result and a host with the sink and the calls of the run. -/
structure Conclusion (α : Type) (stop : Machine → IoError → Stop) where
  result : {σ : Type} → Progress σ → Except Stop α × Host σ
  sink_eq : ∀ {σ : Type} (progress : Progress σ),
    (result progress).2.sink = progress.state.host.sink
  calls_eq : ∀ {σ : Type} (progress : Progress σ),
    (result progress).2.calls = progress.state.host.calls
  result_withSink : ∀ {σ τ : Type} (progress : Progress σ) (sink : τ),
    result (progress.withSink sink) = ((result progress).1, (result progress).2.withSink sink)
  result_refused : ∀ {σ : Type} (run : Run σ) (fault : IoError),
    (result (.ended run (.aborted (.sink fault)))).1
      = .error (stop run.machine fault)

namespace Conclusion

/-- A start function that returns leaves an instance, and one that is aborted refuses the module. -/
def ofStart (inst : Instance) : Conclusion Instance Stop.startRefused where
  result
    | .running run => (.error .unfinished, run.host)
    | .ended run (.returned _) => (.ok { inst with store := run.machine.store }, run.host)
    | .ended run (.aborted abort) =>
        (.error (.failed (.rejected (.failed (.aborted (Engine.backtrace run.machine) abort)))),
          run.host)
    | .ended run .overflow => (.error .overflow, run.host)
  sink_eq progress := by
    rcases progress with run | ⟨run, results | abort | _⟩ <;> rfl
  calls_eq progress := by
    rcases progress with run | ⟨run, results | abort | _⟩ <;> rfl
  result_withSink progress sink := by
    rcases progress with run | ⟨run, results | abort | _⟩ <;> rfl
  result_refused run fault := rfl

/-- An entry point that returns completes the run, and one that is aborted is trapped. -/
def ofEntry (entry : Entry) : Conclusion Completion (Stop.entryRefused entry.name) where
  result
    | .running run => (.error .unfinished, run.host)
    | .ended run (.returned results) =>
        (.ok ⟨run.host.calls, run.host.limiter.peak⟩,
          if (overwrite entry.places results).isEmpty then run.host
          else run.host.record (.resultsIgnored entry.name (overwrite entry.places results)))
    | .ended run (.aborted abort) =>
        let failure : Failure := .aborted (Engine.backtrace run.machine) abort
        (.error (.failed (.trapped entry.name failure.reason)),
          run.host.record (.trapped entry.name failure.text))
    | .ended run .overflow => (.error .overflow, run.host)
  sink_eq progress := by
    rcases progress with run | ⟨run, results | abort | _⟩
    · rfl
    · simp only
      split <;> rfl
    · rfl
    · rfl
  calls_eq progress := by
    rcases progress with run | ⟨run, results | abort | _⟩
    · rfl
    · simp only
      split <;> rfl
    · rfl
    · rfl
  result_withSink progress sink := by
    rcases progress with run | ⟨run, results | abort | _⟩
    · rfl
    · simp only [Progress.withSink]
      split <;> rfl
    · rfl
    · rfl
  result_refused run fault := rfl

variable {α : Type} {stop : Machine → IoError → Stop} {steps : Nat} {inst : Instance}
  {func : Func} {host : Host Recorder}

/-- A computation that runs code, and concludes from how the call went, prints what the code prints.
-/
theorem prints (conclusion : Conclusion α stop) (x : (σ : Type) → [Sink σ] → HostM σ α)
    (called : Host Recorder) (free : host.sink.capacity = none) (sameSink : called.sink = host.sink)
    (sameCalls : called.calls = host.calls)
    (outcome : ∀ (σ : Type) [Sink σ] (sink : σ), (x σ).outcome (host.withSink sink)
      = conclusion.result (Instantiation.callAfter steps (called.withSink sink) inst func)) :
    ∃ values, host.Printed ((x Recorder).outcome host).2 values ∧
      ∀ (σ : Type) [Sink σ] (sink : σ), (x Recorder).Echoes stop (x σ) host values sink := by
  have reference := outcome Recorder host.sink
  rw [Host.withSink_self, ← sameSink, Host.withSink_self] at reference
  rcases Run.advance_echoes steps ⟨called, .ofCall inst func⟩ (by rw [← free, ← sameSink]) with
    ⟨values, printed, echoes⟩
  refine ⟨values, ⟨?_, ?_⟩, ?_⟩
  · rw [reference, conclusion.sink_eq, ← sameSink]
    exact printed.sink
  · rw [reference, conclusion.calls_eq, ← sameCalls]
    exact printed.calls
  · intro σ _ sink
    refine ⟨?_, ?_⟩
    · intro accepted
      rw [outcome σ sink, reference, ← conclusion.result_withSink]
      exact congrArg conclusion.result ((echoes σ sink).accepted accepted)
    · intro fault refused
      rcases (echoes σ sink).refused fault refused with ⟨later, ended, same, calls⟩
      have concluded : (x σ).outcome (host.withSink sink)
          = conclusion.result (.ended later (.aborted (.sink fault))) :=
        (outcome σ sink).trans (congrArg conclusion.result ended)
      refine ⟨_, _, concluded.trans (Prod.ext (conclusion.result_refused later fault) rfl), ?_, ?_⟩
      · rw [conclusion.sink_eq]
        exact same
      · rw [conclusion.calls_eq, ← sameCalls]
        exact calls

end Conclusion

/-- The host with a new limiter and no host calls made. -/
def Host.fresh {σ : Type} (limits : ResourceLimits) (host : Host σ) : Host σ :=
  { host with limiter := .ofLimits limits, calls := 0 }

namespace Instantiation

theorem prints_start (steps : Nat) (inst : Instance) :
    Prints Stop.startRefused fun σ _ => (start steps inst : HostM σ Instance) := by
  cases named : inst.module.start.bind inst.module.callee? with
  | none =>
      simp only [start, named]
      exact (Silent.pure inst).prints _
  | some callee =>
      cases callee with
      | host func =>
          simp only [start, named]
          exact (Silent.pure inst).prints _
      | defined func =>
          intro host free
          have outcome : ∀ (σ : Type) [Sink σ] (sink : σ),
              (start steps inst).outcome (host.withSink sink)
                = (Conclusion.ofStart inst).result
                  (callAfter steps (host.withSink sink) inst func) := by
            intro σ _ sink
            rw [outcome_start, named]
            rfl
          exact (Conclusion.ofStart inst).prints (fun σ _ => start steps inst) host free rfl rfl
            outcome

/-- Instantiation after the host has been given a new limiter. -/
def instantiateFresh {σ : Type} [Sink σ] (steps : Nat) (limits : ResourceLimits)
    (bytes : ByteArray) : HostM σ Instance := do
  HostM.record (.compiling bytes.size)
  match Module.load? bytes with
  | none => .reject (.failed (.refused (.invalid bytes)))
  | some m =>
    checkImports m.imports.toList
    let linker ← addToLinker {}
    let linked ← link linker m
    checkCounts m limits
    let store ← makeStore m
    let inst ← start steps ⟨linked, store⟩
    HostM.record (.instantiated m.imports.size m.exports.size (← get).limiter.current)
    pure inst

theorem outcome_instantiate {σ : Type} [Sink σ] (steps : Nat) (limits : ResourceLimits)
    (bytes : ByteArray) (host : Host σ) :
    (instantiate steps limits bytes).outcome host
      = (instantiateFresh steps limits bytes).outcome (host.fresh limits) :=
  rfl

theorem prints_instantiateFresh (steps : Nat) (limits : ResourceLimits) (bytes : ByteArray) :
    Prints Stop.startRefused fun σ _ =>
      (instantiateFresh steps limits bytes : HostM σ Instance) := by
  simp only [instantiateFresh]
  refine .bind ((Silent.record _).prints _) fun _ => ?_
  split
  · exact (Silent.fail _).prints _
  · rename_i m _
    refine .bind ((Silent.compositional.checkImports _).prints _) fun _ => ?_
    refine .bind ((Silent.compositional.sequential.addToLinker _).prints _) fun linker => ?_
    refine .bind ((Silent.compositional.sequential.link linker m).prints _) fun linked => ?_
    refine .bind ((Silent.compositional.sequential.checkCounts m _).prints _) fun _ => ?_
    refine .bind ((silent_makeStore m).prints _) fun store => ?_
    refine .bind (prints_start steps ⟨linked, store⟩) fun inst => ?_
    have reports : Silent fun σ => (do
        HostM.record (.instantiated m.imports.size m.exports.size (← get).limiter.current)
        pure inst : HostM σ Instance) := by
      intro σ τ host sink
      exact ⟨rfl, rfl⟩
    exact reports.prints _

end Instantiation

theorem prints_invoke (steps : Nat) (inst : Instance) (entry : Entry) :
    Prints (Stop.entryRefused entry.name) fun σ _ =>
      (invoke steps inst entry : HostM σ Completion) := by
  intro host free
  have outcome : ∀ (σ : Type) [Sink σ] (sink : σ),
      (invoke steps inst entry).outcome (host.withSink sink)
        = (Conclusion.ofEntry entry).result (Instantiation.callAfter steps
          ((host.record (.invoking entry.name)).withSink sink) inst entry.func) := by
    intro σ _ sink
    rw [outcome_invoke]
    rfl
  exact (Conclusion.ofEntry entry).prints (fun σ _ => invoke steps inst entry)
    (host.record (.invoking entry.name)) free rfl rfl outcome

end WasmHost
