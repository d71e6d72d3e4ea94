import Mathlib
import WasmHost.Proofs.Host.Moments

/-!
# Runs with another sink

The code of a module sees of a sink only whether it refuses a number, and then the code is aborted.
So what a run does with one sink says what it does with any other. The run to compare with is the
one with a recorder that accepts everything. It prints some numbers in its steps, and a run with
another sink echoes it: it does the same as long as that sink accepts these numbers, and it is
aborted at the first number that the sink refuses. `Run.Echoes` says so, and `Run.advance_echoes`
proves it of every run and every number of steps.
-/

namespace WasmHost

/-- What becomes of a sink that is given numbers until it refuses one. -/
structure Fed (σ : Type) where
  fault : Option IoError := none
  sink : σ
  /-- The numbers that the sink was given, including the one that it refused. -/
  calls : Nat

namespace Sink

variable {σ : Type} [Sink σ]

/-- Gives numbers to a sink, up to the first one that it refuses. -/
def feed (sink : σ) : List Int32 → Fed σ
  | [] => { sink, calls := 0 }
  | value :: rest =>
    match emit sink value with
    | (none, sink) => { feed sink rest with calls := (feed sink rest).calls + 1 }
    | (some fault, sink) => { fault := some fault, sink, calls := 1 }

theorem feed_cons_of_accepted {sink after : σ} {value : Int32} (rest : List Int32)
    (accepted : emit sink value = (none, after)) :
    feed sink (value :: rest)
      = { feed after rest with calls := (feed after rest).calls + 1 } := by
  simp only [feed, accepted]

theorem feed_cons_of_refused {sink after : σ} {value : Int32} {fault : IoError} (rest : List Int32)
    (refused : emit sink value = (some fault, after)) :
    feed sink (value :: rest) = { fault := some fault, sink := after, calls := 1 } := by
  simp only [feed, refused]

theorem calls_feed_of_accepted {sink : σ} {values : List Int32}
    (accepted : (feed sink values).fault = none) : (feed sink values).calls = values.length := by
  induction values generalizing sink with
  | nil => rfl
  | cons value rest ih =>
      rcases emitted : emit sink value with ⟨_ | fault, after⟩
      · rw [feed_cons_of_accepted rest emitted] at accepted ⊢
        simpa using ih accepted
      · simp [feed_cons_of_refused rest emitted] at accepted

theorem calls_feed_le (sink : σ) (values : List Int32) :
    (feed sink values).calls ≤ values.length := by
  induction values generalizing sink with
  | nil => exact Nat.le_refl 0
  | cons value rest ih =>
      rcases emitted : emit sink value with ⟨_ | fault, after⟩
      · rw [feed_cons_of_accepted rest emitted]
        simpa using ih after
      · simp [feed_cons_of_refused rest emitted]

theorem calls_feed_pos {sink : σ} {values : List Int32} {fault : IoError}
    (refused : (feed sink values).fault = some fault) : 0 < (feed sink values).calls := by
  cases values with
  | nil => simp [feed] at refused
  | cons value rest =>
      rcases emitted : emit sink value with ⟨_ | fault, after⟩
      · simp [feed_cons_of_accepted rest emitted]
      · simp [feed_cons_of_refused rest emitted]

/-- A sink that accepts the first numbers is then given the others. -/
theorem feed_append_of_accepted {sink : σ} {values : List Int32} (more : List Int32)
    (accepted : (feed sink values).fault = none) :
    feed sink (values ++ more) =
      { feed (feed sink values).sink more with
        calls := (feed sink values).calls + (feed (feed sink values).sink more).calls } := by
  induction values generalizing sink with
  | nil => simp [feed]
  | cons value rest ih =>
      rcases emitted : emit sink value with ⟨_ | fault, after⟩
      · rw [feed_cons_of_accepted rest emitted] at accepted
        simp only [List.cons_append, feed_cons_of_accepted _ emitted, ih accepted, Fed.mk.injEq,
          true_and]
        omega
      · simp [feed_cons_of_refused rest emitted] at accepted

/-- A sink that refuses one of the first numbers is not given the others. -/
theorem feed_append_of_refused {sink : σ} {values : List Int32} {fault : IoError}
    (more : List Int32) (refused : (feed sink values).fault = some fault) :
    feed sink (values ++ more) = feed sink values := by
  induction values generalizing sink with
  | nil => simp [feed] at refused
  | cons value rest ih =>
      rcases emitted : emit sink value with ⟨_ | fault, after⟩
      · rw [feed_cons_of_accepted rest emitted] at refused
        simp only [List.cons_append, feed_cons_of_accepted _ emitted, ih refused]
      · simp only [List.cons_append, feed_cons_of_refused _ emitted]

end Sink

namespace Recorder

/-- The recorder with more numbers kept. -/
def extend (recorder : Recorder) (values : List Int32) : Recorder :=
  { recorder with values := recorder.values ++ values.toArray }

@[simp]
theorem extend_nil (recorder : Recorder) : recorder.extend [] = recorder := by
  simp [extend]

@[simp]
theorem extend_extend (recorder : Recorder) (values more : List Int32) :
    (recorder.extend values).extend more = recorder.extend (values ++ more) := by
  simp [extend]

theorem emit_of_unlimited {recorder : Recorder} (value : Int32) (free : recorder.capacity = none) :
    Sink.emit recorder value = (none, recorder.extend [value]) := by
  simp [Sink.emit, hasRoom, free, extend]

/-- A recorder with room for all numbers keeps them, and any other one keeps those that it has room
for and refuses the next. -/
theorem feed_eq {recorder : Recorder} {room : Nat} (values : List Int32)
    (limited : recorder.capacity = some (recorder.values.size + room)) :
    Sink.feed recorder values =
      if values.length ≤ room then { sink := recorder.extend values, calls := values.length }
      else
        { fault := some recorder.fault
          sink := recorder.extend (values.take room)
          calls := room + 1 } := by
  induction values generalizing recorder room with
  | nil => simp [Sink.feed]
  | cons value rest ih =>
      cases room with
      | zero =>
          have refused : Sink.emit recorder value = (some recorder.fault, recorder) := by
            simp [Sink.emit, hasRoom, limited]
          rw [Sink.feed_cons_of_refused rest refused]
          simp
      | succ room =>
          have accepted : Sink.emit recorder value = (none, recorder.extend [value]) := by
            simp [Sink.emit, hasRoom, limited, extend]
          have limitedAfter : (recorder.extend [value]).capacity
              = some ((recorder.extend [value]).values.size + room) := by
            simp only [extend, limited, Array.size_append, List.size_toArray, List.length_singleton,
              Option.some.injEq]
            omega
          rw [Sink.feed_cons_of_accepted rest accepted, ih limitedAfter]
          simp only [List.length_cons, Nat.add_le_add_iff_right, List.take_succ_cons, extend_extend,
            List.singleton_append]
          split <;> rfl

end Recorder

namespace Host

variable {σ τ : Type}

/-- The host with another sink in place of its own. -/
def withSink (host : Host σ) (sink : τ) : Host τ :=
  { limiter := host.limiter, calls := host.calls, sink, events := host.events }

@[simp]
theorem withSink_self (host : Host σ) : host.withSink host.sink = host :=
  rfl

/-- The host after it was asked to print a number, with the sink as it is then. -/
def printing (host : Host σ) (value : Int32) (sink : τ) : Host τ :=
  { limiter := host.limiter
    calls := host.calls + 1
    sink
    events := host.events.push (.putn value) }

theorem askMemory_withSink (host : Host σ) (sink : τ) (current desired : Nat)
    (maximum : Option Nat) :
    (host.withSink sink).askMemory current desired maximum =
      (host.askMemory current desired maximum).map fun answer =>
        (answer.1, answer.2.withSink sink) := by
  have sameLimiter : (host.withSink sink).limiter = host.limiter := rfl
  simp only [askMemory, sameLimiter]
  cases host.limiter.memoryGrowing (.ofNat current) (.ofNat desired) (maximum.map .ofNat) <;> rfl

theorem askMemory_keeps {host after : Host σ} {current desired : Nat} {maximum : Option Nat}
    {approved : Bool} (answer : host.askMemory current desired maximum = some (approved, after)) :
    after.sink = host.sink ∧ after.calls = host.calls := by
  simp only [askMemory] at answer
  split at answer
  · simp at answer
  · simp only [Option.some.injEq, Prod.mk.injEq] at answer
    rw [← answer.2]
    exact ⟨rfl, rfl⟩

/-- The host, with a recorder for its sink, has printed numbers since. -/
structure Printed (host after : Host Recorder) (values : List Int32) : Prop where
  sink : after.sink = host.sink.extend values
  calls : after.calls = host.calls + values.length

namespace Printed

variable {host middle after : Host Recorder} {values more : List Int32}

theorem nothing (sink : after.sink = host.sink) (calls : after.calls = host.calls) :
    Printed host after [] :=
  ⟨by simp [sink], calls⟩

theorem append (first : Printed host middle values) (second : Printed middle after more) :
    Printed host after (values ++ more) := by
  refine ⟨?_, ?_⟩
  · rw [second.sink, first.sink, Recorder.extend_extend]
  · rw [second.calls, first.calls, List.length_append, Nat.add_assoc]

theorem unlimited (printed : Printed host after values) (free : host.sink.capacity = none) :
    after.sink.capacity = none := by
  rw [printed.sink]
  exact free

end Printed

end Host

namespace Run

variable {σ τ : Type}

/-- The run with another sink in place of the one of its host. -/
def withSink (run : Run σ) (sink : τ) : Run τ :=
  ⟨run.host.withSink sink, run.machine⟩

end Run

/-- The progress with another sink in place of the one of the host. -/
def Progress.withSink {σ τ : Type} (sink : τ) : Progress σ → Progress τ
  | running run => .running (run.withSink sink)
  | ended run ending => .ended (run.withSink sink) ending

namespace Run

variable {σ τ : Type} [Engine]

theorem growMemory_withSink (host : Host σ) (sink : τ) (machine : Machine) (index pages : Nat) :
    growMemory (host.withSink sink) machine index pages
      = (growMemory host machine index pages).withSink sink := by
  simp only [growMemory, Host.askMemory_withSink]
  split
  · rfl
  · rename_i memory present
    split
    · rfl
    · rcases host.askMemory memory.size _ memory.type.maximumBytes with _ | ⟨_ | _, after⟩
      · rfl
      · rfl
      · simp only [Option.map_some]
        split <;> rfl

theorem growMemory_keeps (host : Host σ) (machine : Machine) (index pages : Nat) :
    (growMemory host machine index pages).state.host.sink = host.sink ∧
      (growMemory host machine index pages).state.host.calls = host.calls := by
  simp only [growMemory]
  split
  · exact ⟨rfl, rfl⟩
  · split
    · exact ⟨rfl, rfl⟩
    · split
      · exact ⟨rfl, rfl⟩
      · rename_i answer
        exact Host.askMemory_keeps answer
      · rename_i answer
        have kept := Host.askMemory_keeps answer
        split
        · exact kept
        · exact kept

theorem growTable_withSink (host : Host σ) (sink : τ) (machine : Machine) (index n : Nat)
    (ref : Ref) :
    growTable (host.withSink sink) machine index n ref
      = (growTable host machine index n ref).withSink sink := by
  simp only [growTable]
  split
  · rfl
  · split
    · rfl
    · change (if host.askTable _ && _ && _ then _ else _) = _
      split <;> rfl

theorem growTable_keeps (host : Host σ) (machine : Machine) (index n : Nat) (ref : Ref) :
    (growTable host machine index n ref).state.host = host := by
  simp only [growTable]
  split
  · rfl
  · split
    · rfl
    · split <;> rfl

/-- A step prints a number, or it does not concern the sink. -/
theorem step_silent_or_emit (run : Run σ) [Sink σ] :
    (∃ machine value, run.machine.step = .emit machine value) ∨
      (run.step.state.host.sink = run.host.sink ∧ run.step.state.host.calls = run.host.calls) ∧
        ∀ (τ : Type) [Sink τ] (sink : τ), (run.withSink sink).step = run.step.withSink sink := by
  rcases run with ⟨host, machine⟩
  cases stepped : machine.step with
  | next later =>
      refine .inr ⟨?_, ?_⟩
      · simp [step, stepped, Progress.state]
      · intro τ _ sink
        simp [step, withSink, stepped, Progress.withSink]
  | done later results =>
      refine .inr ⟨?_, ?_⟩
      · simp [step, stepped, Progress.state]
      · intro τ _ sink
        simp [step, withSink, stepped, Progress.withSink]
  | trap later reason =>
      refine .inr ⟨?_, ?_⟩
      · simp [step, stepped, Progress.state]
      · intro τ _ sink
        simp [step, withSink, stepped, Progress.withSink]
  | emit later value => exact .inl ⟨later, value, rfl⟩
  | growMemory later index pages =>
      refine .inr ⟨?_, ?_⟩
      · simp only [step, stepped]
        exact growMemory_keeps host later index pages
      · intro τ _ sink
        simp only [step, withSink, stepped]
        exact growMemory_withSink host sink later index pages
  | growTable later index n ref =>
      refine .inr ⟨?_, ?_⟩
      · simp [step, stepped, growTable_keeps]
      · intro τ _ sink
        simp only [step, withSink, stepped]
        exact growTable_withSink host sink later index n ref

theorem step_of_emit [Sink σ] {run : Run σ} {machine : Machine} {value : UInt32}
    (prints : run.machine.step = .emit machine value) :
    run.step =
      match Sink.emit run.host.sink value.toInt32 with
      | (none, sink) => .running ⟨run.host.printing value.toInt32 sink, machine⟩
      | (some fault, sink) =>
          .ended ⟨run.host.printing value.toInt32 sink, machine⟩ (.aborted (.sink fault)) := by
  simp only [step, prints, emit, Host.emit]
  rcases Sink.emit run.host.sink value.toInt32 with ⟨_ | fault, sink⟩ <;> rfl

/-- How a run goes on with another sink, given what it does and prints with a recorder. -/
structure Echoes (steps : Nat) (run : Run Recorder) (values : List Int32) [Sink σ] (sink : σ) :
    Prop where
  accepted : (Sink.feed sink values).fault = none →
    (run.withSink sink).advance steps
      = (run.advance steps).withSink (Sink.feed sink values).sink
  refused : ∀ fault, (Sink.feed sink values).fault = some fault →
    ∃ later, (run.withSink sink).advance steps = .ended later (.aborted (.sink fault)) ∧
      later.host.sink = (Sink.feed sink values).sink ∧
      later.host.calls = run.host.calls + (Sink.feed sink values).calls

theorem echoes_of_ended {run later : Run Recorder} {ending : Ending} [Sink σ] {sink : σ}
    (steps : Nat) (stepped : run.step = .ended later ending)
    (silent : (run.withSink sink).step = run.step.withSink sink) :
    Echoes (steps + 1) run [] sink := by
  refine ⟨?_, ?_⟩
  · intro _
    simp only [advance, silent, stepped, Progress.withSink, Sink.feed]
  · intro fault refused
    simp [Sink.feed] at refused

theorem echoes_of_running {run later : Run Recorder} {values : List Int32} [Sink σ] {sink : σ}
    {steps : Nat} (stepped : run.step = .running later) (calls : later.host.calls = run.host.calls)
    (silent : (run.withSink sink).step = run.step.withSink sink)
    (echoes : Echoes steps later values sink) : Echoes (steps + 1) run values sink := by
  refine ⟨?_, ?_⟩
  · intro accepted
    simp only [advance, silent, stepped, Progress.withSink]
    exact echoes.accepted accepted
  · intro fault refused
    simp only [advance, silent, stepped, Progress.withSink]
    rw [← calls]
    exact echoes.refused fault refused

/-- A number that is printed goes to the other sink, too, which may refuse it. -/
theorem echoes_of_emit {run : Run Recorder} {machine : Machine} {value : UInt32}
    {values : List Int32} [Sink σ] {sink : σ} {steps : Nat} (recorder : Recorder)
    (prints : run.machine.step = .emit machine value)
    (accepts : Sink.emit run.host.sink value.toInt32 = (none, recorder))
    (echoes : ∀ after : σ,
      Echoes steps ⟨run.host.printing value.toInt32 recorder, machine⟩ values after) :
    Echoes (steps + 1) run (value.toInt32 :: values) sink := by
  have stepped : run.step = .running ⟨run.host.printing value.toInt32 recorder, machine⟩ := by
    rw [step_of_emit prints, accepts]
  have steppedOther : (run.withSink sink).step = match Sink.emit sink value.toInt32 with
      | (none, after) => .running ⟨run.host.printing value.toInt32 after, machine⟩
      | (some fault, after) =>
          .ended ⟨run.host.printing value.toInt32 after, machine⟩ (.aborted (.sink fault)) :=
    step_of_emit prints
  rcases emitted : Sink.emit sink value.toInt32 with ⟨_ | fault, after⟩
  · rw [emitted] at steppedOther
    have fed := Sink.feed_cons_of_accepted values emitted
    refine ⟨?_, ?_⟩
    · intro accepted
      simp only [fed] at accepted ⊢
      simp only [advance, stepped, steppedOther]
      exact (echoes after).accepted accepted
    · intro fault refused
      simp only [fed] at refused ⊢
      simp only [advance, steppedOther]
      rcases (echoes after).refused fault refused with ⟨later, ended, same, calls⟩
      refine ⟨later, ended, same, ?_⟩
      rw [calls]
      simp only [Host.printing]
      omega
  · rw [emitted] at steppedOther
    have fed := Sink.feed_cons_of_refused values emitted
    refine ⟨?_, ?_⟩
    · intro accepted
      simp [fed] at accepted
    · intro other refused
      simp only [fed, Option.some.injEq] at refused ⊢
      subst refused
      simp only [advance, steppedOther]
      exact ⟨_, rfl, rfl, rfl⟩

/-- A run prints the same numbers to every sink, up to the first one that the sink refuses. -/
theorem advance_echoes (steps : Nat) (run : Run Recorder) (free : run.host.sink.capacity = none) :
    ∃ values, run.host.Printed (run.advance steps).state.host values ∧
      ∀ (τ : Type) [Sink τ] (sink : τ), Echoes steps run values sink := by
  -- By induction on the steps, for every run. What a step prints comes before what the later steps
  -- print, so the other sink has to be arbitrary in the induction.
  induction steps generalizing run with
  | zero =>
      refine ⟨[], .nothing rfl rfl, ?_⟩
      intro τ _ sink
      exact ⟨fun _ => rfl, fun fault refused => by simp [Sink.feed] at refused⟩
  | succ steps ih =>
      rcases run.step_silent_or_emit with ⟨machine, value, prints⟩ | ⟨⟨keptSink, keptCalls⟩, silent⟩
      · have accepts := Recorder.emit_of_unlimited value.toInt32 free
        have stepped := step_of_emit prints
        rw [accepts] at stepped
        rcases ih ⟨run.host.printing value.toInt32 (run.host.sink.extend [value.toInt32]), machine⟩
          free with ⟨values, printed, echoes⟩
        refine ⟨value.toInt32 :: values, ?_, ?_⟩
        · have first : run.host.Printed (run.host.printing value.toInt32
              (run.host.sink.extend [value.toInt32])) [value.toInt32] := ⟨rfl, rfl⟩
          simp only [advance, stepped]
          exact first.append printed
        · intro τ _ sink
          exact echoes_of_emit _ prints accepts fun after => echoes τ after
      · cases stepped : run.step with
        | running later =>
            rw [stepped] at keptSink keptCalls
            have laterFree : later.host.sink.capacity = none := by
              rw [show later.host.sink = run.host.sink from keptSink]
              exact free
            rcases ih later laterFree with ⟨values, printed, echoes⟩
            refine ⟨values, ?_, ?_⟩
            · simp only [advance, stepped]
              exact (Host.Printed.nothing keptSink keptCalls).append printed
            · intro τ _ sink
              exact echoes_of_running stepped keptCalls (silent τ sink) (echoes τ sink)
        | ended later ending =>
            rw [stepped] at keptSink keptCalls
            refine ⟨[], ?_, ?_⟩
            · simp only [advance, stepped]
              exact .nothing keptSink keptCalls
            · intro τ _ sink
              exact echoes_of_ended steps stepped (silent τ sink)

end Run

end WasmHost
