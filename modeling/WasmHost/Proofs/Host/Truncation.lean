import Mathlib
import WasmHost.Proofs.Host.Printing
import WasmHost.Proofs.Host.Sandbox

/-!
# A sink that fails

A run with a sink that fails is the beginning of the run with a sink that does not. As long as the
sink accepts numbers, the two runs agree in everything but the sink. At the first number that it
refuses the code is aborted: instantiation fails if the start function has printed the number, and
the entry point is trapped if it has. The numbers that were accepted are kept.

`drive_echoes` says so for every sink, and `failing_sink_truncates` for a recorder with limited
room.
-/

namespace WasmHost

open Instantiation

variable {σ : Type}

/-- All that the engine says of a place, in front of the cause. -/
def placeText : List String → String
  | [] => ""
  | context :: rest => context ++ ": " ++ placeText rest

theorem Failure.text_aborted [Engine] (place : List String) (abort : Abort) :
    (Failure.aborted place abort).text = placeText place ++ abort.message := by
  simp only [text]
  induction place with
  | nil => exact String.empty_append.symm
  | cons context rest ih => rw [List.foldr_cons, ih, placeText, ← String.append_assoc]

/-- In the run of an artifact the start function makes more than `n` host calls. -/
def StartPrints [Engine] [Sink σ] (steps : Nat) (config : Config) (bytes : ByteArray)
    (first : Host σ) (n : Nat) : Prop :=
  ∃ host inst func, StartCall config bytes first host inst func ∧
    n < (callAfter steps host inst func).state.host.calls

theorem calls_admission [Engine] (limits : ResourceLimits) (size : Nat) (m : Module)
    (host : Host σ) : ((admission limits size m).outcome host).2.calls = 0 := by
  have parts := Silent.compositional.sequential
  have silent : Silent fun σ => (do
      HostM.record (.compiling size)
      checkImports m.imports.toList
      let linker ← addToLinker {}
      let linked ← link linker m
      checkCounts m limits
      pure linked : HostM σ LinkedModule) := by
    refine .bind (.record _) fun _ => .bind (Silent.compositional.checkImports _) fun _ => ?_
    refine .bind (parts.addToLinker _) fun linker => .bind (parts.link linker m) fun linked => ?_
    exact .bind (parts.checkCounts m limits) fun _ => .pure linked
  exact (silent σ σ (host.fresh limits) host.sink).1

/-- What becomes of a journey with another sink, given what it is and what it prints with a
recorder: with a sink that refuses a number it ends after the given milestones. -/
structure Journey.Echoes [Sink σ] (milestones : List Milestone)
    (stop : Machine → IoError → Stop) (calls : Nat) (alone : Journey × Host Recorder)
    (other : Journey × Host σ) (values : List Int32) (sink : σ) : Prop where
  accepted : (Sink.feed sink values).fault = none →
    other = (alone.1, alone.2.withSink (Sink.feed sink values).sink)
  refused : ∀ fault, (Sink.feed sink values).fault = some fault →
    (∃ machine, other.1 = ⟨milestones, some (stop machine fault)⟩) ∧
      other.2.sink = (Sink.feed sink values).sink ∧
      other.2.calls = calls + (Sink.feed sink values).calls

theorem Journey.Echoes.silent [Sink σ] {milestones : List Milestone}
    {stop : Machine → IoError → Stop} {calls : Nat} {alone : Journey × Host Recorder}
    {other : Journey × Host σ} {sink : σ}
    (same : other = (alone.1, alone.2.withSink sink)) :
    Journey.Echoes milestones stop calls alone other [] sink := by
  refine ⟨fun _ => same, ?_⟩
  intro fault refused
  simp [Sink.feed] at refused

section Driving

variable [Engine] [Sink σ] {steps : Nat} {config : Config} {bytes : ByteArray} {first : Host σ}

theorem calls_start {inst : Instance} {func : Func} {host : Host σ}
    (named : inst.module.start.bind inst.module.callee? = some (.defined func)) :
    ((start steps inst).outcome host).2.calls
      = (callAfter steps host inst func).state.host.calls := by
  simp only [outcome_start, named]
  rcases callAfter steps host inst func with run | ⟨run, results | abort | _⟩ <;> rfl

theorem calls_instantiate {m : Module} {linked : LinkedModule} {store : Store}
    {admitted ready : Host σ} (loaded : Module.load? bytes = some m)
    (admits : (admission config.limits bytes.size m).Yields first linked admitted)
    (made : (makeStore m).Yields admitted store ready) :
    ((instantiate steps config.limits bytes).outcome first).2.calls
      = ((start steps ⟨linked, store⟩).outcome ready).2.calls := by
  simp only [HostM.Yields] at admits made
  rw [instantiate_eq steps config.limits loaded]
  simp only [HostM.outcome_bind, admits, made]
  rcases (start steps ⟨linked, store⟩).outcome ready with ⟨stop | inst, after⟩ <;> rfl

/-- A start function is the only thing that makes host calls during instantiation. -/
theorem exists_startCall
    (calls : ((instantiate steps config.limits bytes).outcome first).2.calls ≠ 0) :
    ∃ host inst func, StartCall config bytes first host inst func := by
  cases loaded : Module.load? bytes with
  | none => simp [instantiate, loaded, HostM.outcome_bind, Host.record] at calls
  | some m =>
      have admittedCalls := calls_admission config.limits bytes.size m first
      rcases admits : (admission config.limits bytes.size m).outcome first with
        ⟨stop | linked, admitted⟩
      · rw [instantiate_eq steps config.limits loaded] at calls
        simp only [HostM.outcome_bind, admits] at calls admittedCalls
        exact absurd admittedCalls calls
      · rw [admits] at admittedCalls
        have readyCalls := (silent_makeStore m σ σ admitted admitted.sink).1.trans admittedCalls
        rcases made : (makeStore m).outcome admitted with ⟨stop | store, ready⟩
        · rw [instantiate_eq steps config.limits loaded] at calls
          simp only [HostM.outcome_bind, admits, made] at calls readyCalls
          exact absurd readyCalls calls
        · rw [made] at readyCalls
          rw [calls_instantiate loaded admits made, outcome_start] at calls
          split at calls
          · rename_i func named
            exact ⟨ready, ⟨linked, store⟩, func, loaded, admits, made, named⟩
          · exact absurd readyCalls calls

theorem startPrints_iff {n : Nat} :
    StartPrints steps config bytes first n ↔
      n < ((instantiate steps config.limits bytes).outcome first).2.calls := by
  have calls_eq : ∀ {host : Host σ} {inst : Instance} {func : Func},
      StartCall config bytes first host inst func →
        ((instantiate steps config.limits bytes).outcome first).2.calls
          = (callAfter steps host inst func).state.host.calls := by
    rintro host _ func ⟨loaded, admits, made, named⟩
    rw [calls_instantiate loaded admits made, calls_start named]
  constructor
  · rintro ⟨host, inst, func, starts, prints⟩
    rwa [calls_eq starts]
  · intro prints
    rcases exists_startCall (Nat.ne_zero_of_lt prints) with ⟨host, inst, func, starts⟩
    rw [calls_eq starts] at prints
    exact ⟨host, inst, func, starts, prints⟩

/-- The part of `drive` after instantiation. -/
def driveFrom (steps : Nat) (config : Config) (goal : Goal) (size : Nat) (inst : Instance)
    (host : Host σ) : Journey × Host σ :=
  let loaded := Milestone.loaded size
  let instantiated := Milestone.instantiated host.calls
  if goal = .instantiated then (⟨[loaded, instantiated], none⟩, host)
  else
    match (resolveEntry config.entryPoint inst).outcome host with
    | (.error stop, host) => (⟨[loaded, instantiated], some stop⟩, host)
    | (.ok entry, host) =>
      let resolved := Milestone.resolved entry.name
      if goal = .resolved then (⟨[loaded, instantiated, resolved], none⟩, host)
      else
        match (invoke steps inst entry).outcome host with
        | (.error stop, host) => (⟨[loaded, instantiated, resolved], some stop⟩, host)
        | (.ok completion, host) =>
          (⟨[loaded, instantiated, resolved, .completed completion], none⟩, host)

theorem drive_eq (steps : Nat) (config : Config) (goal : Goal) (artifact : Artifact)
    (host : Host σ) :
    drive steps config goal artifact host =
      match (instantiate steps config.limits artifact.bytes).outcome host with
      | (.error stop, host) => (⟨[.loaded artifact.size], some stop⟩, host)
      | (.ok inst, host) => driveFrom steps config goal artifact.size inst host :=
  rfl

theorem driveFrom_eq_invoke {goal : Goal} (steps size : Nat) {inst : Instance} {entry : Entry}
    {host resolved : Host σ} (notEarly : goal ≠ .instantiated) (notLate : goal ≠ .resolved)
    (resolves : (resolveEntry config.entryPoint inst).outcome host = (.ok entry, resolved)) :
    driveFrom steps config goal size inst host =
      match (invoke steps inst entry).outcome resolved with
      | (.error stop, after) =>
          (⟨[.loaded size, .instantiated host.calls, .resolved entry.name], some stop⟩, after)
      | (.ok completion, after) =>
          (⟨[.loaded size, .instantiated host.calls, .resolved entry.name, .completed completion],
            none⟩, after) := by
  simp only [driveFrom, notEarly, notLate, if_false, resolves]

/-- What `driveFrom` prints and does with a recorder, and how it echoes with other sinks. -/
def DriveFromEchoes (steps : Nat) (config : Config) (goal : Goal) (size : Nat) (inst : Instance)
    (host : Host Recorder) (values : List Int32) : Prop :=
  host.Printed (driveFrom steps config goal size inst host).2 values ∧
    ∀ (σ : Type) [Sink σ] (sink : σ),
      Journey.Echoes [.loaded size, .instantiated host.calls, .resolved config.entryPoint]
        (Stop.entryRefused config.entryPoint) host.calls
        (driveFrom steps config goal size inst host)
        (driveFrom steps config goal size inst (host.withSink sink)) values sink

theorem exists_driveFromEchoes_of_invoke {goal : Goal} (size : Nat) {inst : Instance}
    {entry : Entry} {host resolved : Host Recorder} (free : host.sink.capacity = none)
    (notEarly : goal ≠ .instantiated) (notLate : goal ≠ .resolved)
    (resolves : (resolveEntry config.entryPoint inst).outcome host = (.ok entry, resolved)) :
    ∃ values, DriveFromEchoes steps config goal size inst host values := by
  have silent := Silent.compositional.resolveEntry config.entryPoint inst
  have keptSink : resolved.sink = host.sink := by
    simpa only [resolves] using silent.sink_eq host
  have keptCalls : resolved.calls = host.calls := by
    simpa only [resolves] using (silent Recorder Recorder host host.sink).1
  have name : entry.name = config.entryPoint := (resolveEntry_yields resolves).1
  rcases prints_invoke steps inst entry resolved (by rw [keptSink, free]) with
    ⟨values, printed, echoes⟩
  have alone := driveFrom_eq_invoke steps size notEarly notLate resolves
  refine ⟨values, ?_, ?_⟩
  · have printedBoth : host.Printed ((invoke steps inst entry).outcome resolved).2 values :=
      (Host.Printed.nothing keptSink keptCalls).append printed
    rw [alone]
    revert printedBoth
    rcases (invoke steps inst entry).outcome resolved with ⟨stop | completion, after⟩ <;> exact id
  · intro σ _ sink
    have resolvesOther := (silent Recorder σ host sink).2
    rw [resolves] at resolvesOther
    rw [alone, driveFrom_eq_invoke steps size notEarly notLate resolvesOther]
    refine ⟨?_, ?_⟩
    · intro accepted
      rw [(echoes σ sink).accepted accepted]
      rcases (invoke steps inst entry).outcome resolved with ⟨stop | completion, after⟩ <;> rfl
    · intro fault refused
      rcases (echoes σ sink).refused fault refused with ⟨machine, after, stops, same, calls⟩
      rw [HostM.Stops] at stops
      rw [keptCalls] at calls
      rw [stops, ← name]
      exact ⟨⟨machine, rfl⟩, same, calls⟩

/-- After instantiation only the entry point prints. -/
theorem exists_driveFromEchoes (steps : Nat) (config : Config) (goal : Goal) (size : Nat)
    (inst : Instance) {host : Host Recorder} (free : host.sink.capacity = none) :
    ∃ values, DriveFromEchoes steps config goal size inst host values := by
  have silent := Silent.compositional.resolveEntry config.entryPoint inst
  by_cases early : goal = .instantiated
  · refine ⟨[], ?_, ?_⟩
    · simp only [driveFrom, early, if_true]
      exact .nothing rfl rfl
    · intro σ _ sink
      apply Journey.Echoes.silent
      simp only [driveFrom, early, if_true]
      rfl
  have keptSink := silent.sink_eq host
  have keptCalls := (silent Recorder Recorder host host.sink).1
  rcases resolves : (resolveEntry config.entryPoint inst).outcome host with ⟨stop | entry, resolved⟩
  · rw [resolves] at keptSink keptCalls
    refine ⟨[], ?_, ?_⟩
    · simp only [driveFrom, early, if_false, resolves]
      exact .nothing keptSink keptCalls
    · intro σ _ sink
      apply Journey.Echoes.silent
      simp only [driveFrom, early, if_false, (silent Recorder σ host sink).2, resolves]
      rfl
  · by_cases late : goal = .resolved
    · rw [resolves] at keptSink keptCalls
      refine ⟨[], ?_, ?_⟩
      · simp only [driveFrom, late, reduceCtorEq, if_true, if_false, resolves]
        exact .nothing keptSink keptCalls
      · intro σ _ sink
        apply Journey.Echoes.silent
        simp only [driveFrom, late, reduceCtorEq, if_true, if_false,
          (silent Recorder σ host sink).2, resolves]
        rfl
    · exact exists_driveFromEchoes_of_invoke size free early late resolves

theorem exists_instantiateEchoes (steps : Nat) (limits : ResourceLimits) (bytes : ByteArray)
    {host : Host Recorder} (free : host.sink.capacity = none) :
    ∃ values, (host.fresh limits).Printed ((instantiate steps limits bytes).outcome host).2 values ∧
      ∀ (σ : Type) [Sink σ] (sink : σ),
        (instantiateFresh steps limits bytes).Echoes Stop.startRefused
          (instantiateFresh steps limits bytes) (host.fresh limits) values sink := by
  rw [outcome_instantiate]
  exact prints_instantiateFresh steps limits bytes (host.fresh limits) free

/-- How a run ends whose sink has refused a number, where the start function makes `started` calls.
-/
structure Refused (config : Config) (size started : Nat) (fault : IoError) (fed : Fed σ)
    (driven : Journey × Host σ) : Prop where
  sink : driven.2.sink = fed.sink
  calls : driven.2.calls = fed.calls
  start : fed.calls ≤ started →
    ∃ machine, driven.1 = ⟨[.loaded size], some (.startRefused machine fault)⟩
  entry : started < fed.calls → ∃ machine, driven.1 =
    ⟨[.loaded size, .instantiated started, .resolved config.entryPoint],
      some (.entryRefused config.entryPoint machine fault)⟩

/-- A run prints the same numbers to every sink, up to the first one that the sink refuses. There it
ends, in the stage whose code has printed the number. -/
theorem drive_echoes (steps : Nat) (config : Config) (goal : Goal) (artifact : Artifact)
    {host : Host Recorder} (free : host.sink.capacity = none) :
    ∃ values, (drive steps config goal artifact host).2.sink = host.sink.extend values ∧
      ∀ (σ : Type) [Sink σ] (sink : σ),
        ((Sink.feed sink values).fault = none →
          drive steps config goal artifact (host.withSink sink)
            = ((drive steps config goal artifact host).1,
              (drive steps config goal artifact host).2.withSink (Sink.feed sink values).sink)) ∧
        ∀ fault, (Sink.feed sink values).fault = some fault →
          Refused config artifact.size
            ((instantiate steps config.limits artifact.bytes).outcome host).2.calls fault
            (Sink.feed sink values) (drive steps config goal artifact (host.withSink sink)) := by
  rcases exists_instantiateEchoes steps config.limits artifact.bytes free with
    ⟨values, printed, echoes⟩
  have started : ((instantiate steps config.limits artifact.bytes).outcome host).2.calls
      = values.length := by
    rw [printed.calls]
    exact Nat.zero_add _
  rw [started]
  have accepts : ∀ {σ : Type} [Sink σ] {sink : σ}, (Sink.feed sink values).fault = none →
      (instantiate steps config.limits artifact.bytes).outcome (host.withSink sink)
        = (((instantiate steps config.limits artifact.bytes).outcome host).1,
          ((instantiate steps config.limits artifact.bytes).outcome host).2.withSink
            (Sink.feed sink values).sink) := by
    intro σ _ sink accepted
    exact (echoes σ sink).accepted accepted
  -- If a number of the start function is refused, it does not matter what would have come after it.
  have refusedAtStart : ∀ {σ : Type} [Sink σ] {sink : σ} {fault : IoError},
      (Sink.feed sink values).fault = some fault →
        Refused config artifact.size values.length fault (Sink.feed sink values)
          (drive steps config goal artifact (host.withSink sink)) := by
    intro σ _ sink fault refused
    rcases (echoes σ sink).refused fault refused with ⟨machine, after, stops, same, calls⟩
    have driven : drive steps config goal artifact (host.withSink sink)
        = (⟨[.loaded artifact.size], some (.startRefused machine fault)⟩, after) := by
      have stopsToo : (instantiate steps config.limits artifact.bytes).outcome (host.withSink sink)
          = (.error (.startRefused machine fault), after) := stops
      rw [drive_eq, stopsToo]
    rw [driven]
    refine ⟨same, calls.trans (Nat.zero_add _), fun _ => ⟨machine, rfl⟩, ?_⟩
    intro late
    have le := Sink.calls_feed_le sink values
    omega
  rcases outcome : (instantiate steps config.limits artifact.bytes).outcome host with
    ⟨stop | inst, middle⟩
  · rw [outcome] at printed
    refine ⟨values, by rw [drive_eq, outcome]; exact printed.sink, ?_⟩
    intro σ _ sink
    refine ⟨?_, fun fault refused => refusedAtStart refused⟩
    intro accepted
    rw [drive_eq, drive_eq, accepts accepted, outcome]
  · rw [outcome] at printed started
    rcases exists_driveFromEchoes steps config goal artifact.size inst (printed.unlimited free) with
      ⟨more, printedMore, echoesMore⟩
    refine ⟨values ++ more, ?_, ?_⟩
    · rw [drive_eq, outcome]
      exact (printed.append printedMore).sink
    · intro σ _ sink
      cases fed : (Sink.feed sink values).fault with
      | some fault =>
          rw [Sink.feed_append_of_refused more fed]
          refine ⟨?_, fun fault refused => refusedAtStart refused⟩
          intro accepted
          rw [fed] at accepted
          simp at accepted
      | none =>
          rw [drive_eq, drive_eq, accepts fed, outcome, Sink.feed_append_of_accepted more fed]
          refine ⟨(echoesMore σ _).accepted, ?_⟩
          intro fault refused
          rcases (echoesMore σ _).refused fault refused with ⟨journey, same, calls⟩
          have positive := Sink.calls_feed_pos refused
          have callsFirst := Sink.calls_feed_of_accepted fed
          have startedCalls : middle.calls = values.length := started
          refine ⟨same, ?_, ?_, ?_⟩
          · rw [callsFirst, ← startedCalls]
            exact calls
          · intro early
            simp only at early
            omega
          · intro _
            rw [← startedCalls]
            exact journey

end Driving

/-- A sink with room for `n` numbers only truncates a run. If the run prints no more than that, it
is the same but for the room of the sink. Else the first `n` numbers are kept, one more host call is
made, and the run fails with an error that tells the text of the fault, after what the engine says
of the place: instantiation fails if the start function made that call, and the entry point is
trapped if not. -/
theorem failing_sink_truncates [Engine] (steps : Nat) (config : Config) (goal : Goal)
    (artifact : Artifact) (host : Host Recorder) (n : Nat) (fault : IoError) :
    let free := drive steps config goal artifact (host.withSink ({} : Recorder))
    let failing := drive steps config goal artifact
      (host.withSink ({ capacity := some n, fault } : Recorder))
    (free.2.sink.values.size ≤ n →
        failing.1 = free.1 ∧ failing.2.calls = free.2.calls ∧
          failing.2.limiter = free.2.limiter ∧ failing.2.events = free.2.events ∧
          failing.2.sink.values = free.2.sink.values) ∧
      (n < free.2.sink.values.size →
        failing.2.sink.values = free.2.sink.values.take n ∧ failing.2.calls = n + 1 ∧
          (StartPrints steps config artifact.bytes (host.withSink ({} : Recorder)) n →
            ∃ machine error detail,
              failing.1 = ⟨[.loaded artifact.size], some (.failed error)⟩ ∧
              error = .notInstantiated detail ∧
              error.message = "module failed validation or instantiation: " ++ detail ∧
              detail = placeText (Engine.backtrace machine)
                ++ ("js_putn failed to write output: " ++ fault.message)) ∧
          (¬StartPrints steps config artifact.bytes (host.withSink ({} : Recorder)) n →
            ∃ started ≤ n, ∃ machine error reason,
              failing.1 =
                ⟨[.loaded artifact.size, .instantiated started, .resolved config.entryPoint],
                  some (.failed error)⟩ ∧
              error = .trapped config.entryPoint reason ∧
              error.message = "execution trapped in '" ++ config.entryPoint ++ "': " ++ reason ∧
              reason = placeText (Engine.backtrace machine)
                ++ ("js_putn failed to write output: " ++ fault.message))) := by
  intro free failing
  have unlimited : (host.withSink ({} : Recorder)).sink.capacity = none := rfl
  rcases drive_echoes steps config goal artifact unlimited with ⟨values, recorded, echoes⟩
  have freeValues : free.2.sink.values = values.toArray := by
    change (drive steps config goal artifact (host.withSink ({} : Recorder))).2.sink.values = _
    rw [recorded]
    simp [Recorder.extend, Host.withSink]
  have limited : ({ capacity := some n, fault } : Recorder).capacity = some (0 + n) := by
    rw [Nat.zero_add]
  have fed := Recorder.feed_eq values limited
  rcases echoes Recorder ({ capacity := some n, fault } : Recorder) with ⟨accepted, refused⟩
  rw [freeValues]
  refine ⟨?_, ?_⟩
  · intro fits
    simp only [List.size_toArray] at fits
    rw [if_pos fits] at fed
    rw [fed] at accepted
    have same : failing = (free.1, free.2.withSink _) := accepted rfl
    rw [same]
    refine ⟨rfl, rfl, rfl, rfl, ?_⟩
    simp [Host.withSink, Recorder.extend]
  · intro exceeds
    simp only [List.size_toArray] at exceeds
    rw [if_neg (by omega)] at fed
    rw [fed] at refused
    have ended := refused fault rfl
    refine ⟨?_, ended.calls, ?_, ?_⟩
    · have kept : failing.2.sink = _ := ended.sink
      rw [kept]
      simp [Recorder.extend]
    · intro starts
      rcases ended.start (startPrints_iff.mp starts) with ⟨machine, journey⟩
      exact ⟨machine, _, _, journey, rfl, rfl, Failure.text_aborted _ (.sink fault)⟩
    · intro notStarts
      have late := mt startPrints_iff.mpr notStarts
      rcases ended.entry (Nat.lt_succ_of_le (Nat.le_of_not_lt late)) with ⟨machine, journey⟩
      exact ⟨_, Nat.le_of_not_lt late, machine, _, _, journey, rfl, rfl,
        Failure.text_aborted _ (.sink fault)⟩

section

open PlainEngine

/-- The growing module prints four numbers, the first one in its start function. With no room at all
it is refused, and with room for two it is trapped at the third. -/
theorem growingModule_truncated :
    (∃ error, (drive 20 fourPages .completed ⟨growingModule⟩
          { sink := ({ capacity := some 0 } : Recorder) }).1
        = ⟨[.loaded 112], some (.failed error)⟩ ∧
      error.message = "module failed validation or instantiation: "
        ++ "js_putn failed to write output: broken pipe") ∧
      ∃ error, ∃ started ≤ 2, (drive 20 fourPages .completed ⟨growingModule⟩
          { sink := ({ capacity := some 2 } : Recorder) }).1
        = ⟨[.loaded 112, .instantiated started, .resolved "exported_main"],
          some (.failed error)⟩ ∧
      error.message = "execution trapped in 'exported_main': "
        ++ "js_putn failed to write output: broken pipe" := by
  have printed : (drive 20 fourPages .completed ⟨growingModule⟩
      { sink := ({} : Recorder) }).2.sink.values = #[1, 0, 1, -1] := by
    decide +kernel
  have started : ((instantiate 20 fourPages.limits growingModule).outcome
      { sink := ({} : Recorder) }).2.calls = 1 := by
    decide +kernel
  have more : ∀ n < 4, n < (drive 20 fourPages .completed ⟨growingModule⟩
      { sink := ({} : Recorder) }).2.sink.values.size := by
    intro n lt
    rw [printed]
    exact lt
  have startPrints : StartPrints 20 fourPages growingModule { sink := ({} : Recorder) } 0 := by
    rw [startPrints_iff, started]
    decide
  have startDone : ¬StartPrints 20 fourPages growingModule { sink := ({} : Recorder) } 2 := by
    rw [startPrints_iff, started]
    decide
  have same : ∀ sink : Recorder, ({ sink := ({} : Recorder) } : Host Recorder).withSink sink
      = { sink } := fun _ => rfl
  have truncates := failing_sink_truncates 20 fourPages .completed ⟨growingModule⟩
    { sink := ({} : Recorder) }
  simp only [same] at truncates
  have noRoom := (truncates 0 .brokenPipe).2 (more 0 (by decide))
  have roomForTwo := (truncates 2 .brokenPipe).2 (more 2 (by decide))
  refine ⟨?_, ?_⟩
  · rcases noRoom.2.2.1 startPrints with ⟨machine, error, detail, journey, _, message, rfl⟩
    exact ⟨error, journey, message⟩
  · rcases roomForTwo.2.2.2 startDone with
      ⟨early, le, machine, error, reason, journey, _, message, rfl⟩
    exact ⟨error, early, le, journey, message⟩

end

end WasmHost
