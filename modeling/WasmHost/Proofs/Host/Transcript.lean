import Mathlib
import WasmHost.Proofs.Host.Printing
import WasmHost.Proofs.Host.Sandbox
import WasmHost.Proofs.Machine.HostCall

/-!
# What becomes of host calls

A call of the host function has three effects: a counter goes up, an event is logged, and the sink
is given a number. This file proves that the three never part. They are compared with a fourth thing
that no host takes part in, the numbers with which the code of the module calls the host function.
These are read off the machine before each step, so they do not depend on what the host makes of the
signal.

`Host.Told` says of two hosts that exactly these numbers lie between them, in the counter, in the
log and in the sink, and that the sink has accepted all of them, or all but a last one that it
refused. It holds of a step, so it holds of any number of steps and of a whole run. A run goes on
only from a step that was not refused, which is why a refusal can only come last.
-/

namespace WasmHost

open Instantiation

variable {σ : Type}

/-- The numbers that the log reports as printed, in order. -/
def Host.logged (host : Host σ) : List Int32 :=
  host.events.toList.filterMap Event.argument?

namespace Sink

variable [Sink σ]

/-- What a sink says to numbers that it is handed one after the other. -/
def replies (sink : σ) : List Int32 → List (Option IoError)
  | [] => []
  | value :: rest => (emit sink value).1 :: replies (emit sink value).2 rest

theorem emitAll_append (sink : σ) (values more : List Int32) :
    emitAll sink (values ++ more) = emitAll (emitAll sink values) more := by
  simp [emitAll]

theorem replies_append (sink : σ) (values more : List Int32) :
    replies sink (values ++ more) = replies sink values ++ replies (emitAll sink values) more := by
  induction values generalizing sink with
  | nil => rfl
  | cons value rest ih =>
      simp only [List.cons_append, replies, ih]
      rfl

end Sink

/-- Between two hosts exactly these numbers were printed. The sink has accepted them all, but for
the last one if there is a refusal. -/
structure Host.Told [Sink σ] (host after : Host σ) (values : List Int32)
    (refusal : Option IoError) : Prop where
  calls : after.calls = host.calls + values.length
  logged : after.logged = host.logged ++ values
  sink : after.sink = Sink.emitAll host.sink values
  replies : ∃ accepted, Sink.replies host.sink values
    = List.replicate accepted none ++ refusal.toList.map some

namespace Host.Told

variable [Sink σ] {host middle after : Host σ} {values more : List Int32} {refusal : Option IoError}

theorem nothing (calls : after.calls = host.calls) (logged : after.logged = host.logged)
    (sink : after.sink = host.sink) : host.Told after [] none :=
  ⟨calls, by rw [logged, List.append_nil], sink, 0, rfl⟩

theorem refl (host : Host σ) : host.Told host [] none :=
  .nothing rfl rfl rfl

/-- What comes after numbers that were accepted is added to them. -/
theorem append (first : host.Told middle values none) (second : middle.Told after more refusal) :
    host.Told after (values ++ more) refusal := by
  rcases first.replies with ⟨accepted, repliesFirst⟩
  rcases second.replies with ⟨acceptedLater, repliesSecond⟩
  refine ⟨?_, ?_, ?_, accepted + acceptedLater, ?_⟩
  · rw [second.calls, first.calls, List.length_append, Nat.add_assoc]
  · rw [second.logged, first.logged, List.append_assoc]
  · rw [second.sink, first.sink, Sink.emitAll_append]
  · rw [Sink.replies_append, repliesFirst, ← first.sink, repliesSecond]
    rw [List.replicate_add, Option.toList_none, List.map_nil, List.append_nil, List.append_assoc]

/-- What is done after the last number without printing changes nothing. -/
theorem quietly (told : host.Told middle values refusal) (quiet : middle.Told after [] none) :
    host.Told after values refusal := by
  refine ⟨?_, ?_, ?_, told.replies⟩
  · rw [quiet.calls, told.calls]
    rfl
  · rw [quiet.logged, told.logged, List.append_nil]
  · rw [quiet.sink, told.sink]
    rfl

theorem length_replies (told : host.Told after values none) :
    Sink.replies host.sink values = List.replicate values.length none := by
  rcases told.replies with ⟨accepted, replies⟩
  have lengths : (Sink.replies host.sink values).length = values.length := by
    clear told replies
    generalize host.sink = sink
    induction values generalizing sink with
    | nil => rfl
    | cons value rest ih => simp [Sink.replies, ih]
  simp only [Option.toList_none, List.map_nil, List.append_nil] at replies
  rw [replies, List.length_replicate] at lengths
  rw [replies, lengths]

/-- No reply but the last one is a refusal. -/
theorem replies_dropLast (told : host.Told after values refusal) :
    ∀ reply ∈ (Sink.replies host.sink values).dropLast, reply = none := by
  rcases told.replies with ⟨accepted, replies⟩
  rw [replies]
  intro reply reply_mem
  cases refusal with
  | none =>
      simp only [Option.toList_none, List.map_nil, List.append_nil] at reply_mem
      exact List.eq_of_mem_replicate (List.mem_of_mem_dropLast reply_mem)
  | some fault =>
      simp only [Option.toList_some, List.map_cons, List.map_nil, List.dropLast_concat] at reply_mem
      exact List.eq_of_mem_replicate reply_mem

end Host.Told

theorem Host.logged_push {host after : Host σ} {event : Event}
    (events : after.events = host.events.push event) :
    after.logged = host.logged ++ event.argument?.toList := by
  simp only [logged, events, Array.toList_push, List.filterMap_append]
  cases printed : event.argument? <;> simp [printed]

theorem Host.logged_of_quiet {host after : Host σ} {event : Event}
    (events : after.events = host.events.push event) (quiet : event.argument? = none) :
    after.logged = host.logged := by
  rw [logged_push events, quiet, Option.toList_none, List.append_nil]

theorem Host.told_record [Sink σ] (host : Host σ) {event : Event} (quiet : event.argument? = none) :
    host.Told (host.record event) [] none :=
  .nothing rfl (logged_of_quiet rfl quiet) rfl

/-- The sink's refusal that has ended a run, if that is how it ended. -/
def Progress.refusal? : Progress σ → Option IoError
  | ended _ (.aborted (.sink fault)) => some fault
  | _ => none

namespace Run

variable [Sink σ]

theorem argument?_of_memoryGrowing {limiter : Limiter} {current desired : UInt64}
    {maximum : Option UInt64} {verdict : Limiter.Verdict}
    (answer : limiter.memoryGrowing current desired maximum = some verdict) :
    verdict.event.argument? = none := by
  have decision := limiter.memoryGrowing_decision current desired maximum
  rw [answer] at decision
  cases decision <;> rfl

theorem askMemory_told {host after : Host σ} {current desired : Nat} {maximum : Option Nat}
    {approved : Bool} (answer : host.askMemory current desired maximum = some (approved, after)) :
    host.Told after [] none := by
  rcases Host.askMemory_keeps answer with ⟨sink, calls⟩
  refine .nothing calls ?_ sink
  simp only [Host.askMemory] at answer
  split at answer
  · simp at answer
  · rename_i verdict asked
    simp only [Option.some.injEq, Prod.mk.injEq] at answer
    exact Host.logged_of_quiet (congrArg Host.events answer.2.symm)
      (argument?_of_memoryGrowing asked)

variable [Engine]

theorem growthFailed_told (host : Host σ) (desired : Nat) :
    host.Told (host.growthFailed desired) [] none :=
  .nothing rfl (Host.logged_of_quiet rfl rfl) rfl

theorem growMemory_told (host : Host σ) (machine : Machine) (index pages : Nat) :
    host.Told (growMemory host machine index pages).state.host []
      (growMemory host machine index pages).refusal? := by
  simp only [growMemory]
  split
  · exact .refl host
  · split
    · exact .refl host
    · split
      · exact .refl host
      · rename_i answer
        exact askMemory_told answer
      · rename_i after answer
        have asked := askMemory_told answer
        split
        · exact asked
        · exact asked.append (growthFailed_told after _)

theorem growTable_told (host : Host σ) (machine : Machine) (index n : Nat) (ref : Ref) :
    host.Told (growTable host machine index n ref).state.host []
      (growTable host machine index n ref).refusal? := by
  simp only [growTable]
  split
  · exact .refl host
  · split
    · exact .refl host
    · split <;> exact .refl host

/-- A step prints the number with which the next instruction calls the host function, and no
other. -/
theorem step_told (run : Run σ) :
    run.host.Told run.step.state.host run.machine.hostArgument?.toList run.step.refusal? := by
  rw [← Machine.argument?_step]
  cases stepped : run.machine.step with
  | emit machine value =>
      rw [step_of_emit stepped]
      have logged : ∀ sink : σ, (run.host.printing value.toInt32 sink).logged
          = run.host.logged ++ (Event.putn value.toInt32).argument?.toList :=
        fun sink => Host.logged_push rfl
      rcases emitted : Sink.emit run.host.sink value.toInt32 with ⟨_ | fault, sink⟩
      · refine ⟨rfl, logged sink, ?_, 1, ?_⟩
        · simp [Sink.emitAll, Signal.argument?, emitted, Progress.state, Host.printing]
        · simp [Sink.replies, Signal.argument?, emitted, Progress.refusal?]
      · refine ⟨rfl, logged sink, ?_, 0, ?_⟩
        · simp [Sink.emitAll, Signal.argument?, emitted, Progress.state, Host.printing]
        · simp [Sink.replies, Signal.argument?, emitted, Progress.refusal?]
  | next machine =>
      simp only [step, stepped]
      exact .refl run.host
  | done machine results =>
      simp only [step, stepped]
      exact .refl run.host
  | trap machine reason =>
      simp only [step, stepped]
      exact .refl run.host
  | growMemory machine index pages =>
      simp only [step, stepped]
      exact growMemory_told run.host machine index pages
  | growTable machine index n ref =>
      simp only [step, stepped]
      exact growTable_told run.host machine index n ref

/-- The numbers with which the code calls the host function within some steps, in order. -/
def hostArguments : (steps : Nat) → Run σ → List Int32
  | 0, _ => []
  | steps + 1, run =>
    run.machine.hostArgument?.toList ++
      match run.step with
      | .running later => hostArguments steps later
      | .ended _ _ => []

/-- Any number of steps prints the numbers with which the code calls the host function. -/
theorem advance_told (steps : Nat) (run : Run σ) :
    run.host.Told (run.advance steps).state.host (run.hostArguments steps)
      (run.advance steps).refusal? := by
  induction steps generalizing run with
  | zero => exact .refl run.host
  | succ steps ih =>
      have first := run.step_told
      simp only [advance, hostArguments]
      cases stepped : run.step with
      | running later =>
          rw [stepped] at first
          exact first.append (ih later)
      | ended later ending =>
          rw [stepped] at first
          rw [List.append_nil]
          exact first

end Run

namespace HostM

variable {α β : Type} [Sink σ]

/-- The computation prints the numbers that are given for the host which it starts with, and it
succeeds only if none of them is refused. What comes before these numbers is a function of the host,
too, because a host is renewed before a module is instantiated. -/
def Tells (before : Host σ → Host σ) (x : HostM σ α) (arguments : Host σ → List Int32) : Prop :=
  ∀ host, ∃ refusal, (before host).Told (x.outcome host).2 (arguments host) refusal ∧
    ∀ value after, x.Yields host value after → refusal = none

/-- The computation prints nothing. -/
def Quiet (x : HostM σ α) : Prop :=
  x.Tells id fun _ => []

/-- What is printed after a computation that has succeeded. -/
def followedBy (x : HostM σ α) (arguments : α → Host σ → List Int32) (host : Host σ) : List Int32 :=
  match x.outcome host with
  | (.ok value, after) => arguments value after
  | (.error _, _) => []

namespace Tells

variable {before : Host σ → Host σ} {x : HostM σ α} {next : α → HostM σ β}
  {arguments : Host σ → List Int32} {more : α → Host σ → List Int32}

theorem told (tells : x.Tells before arguments) {host after : Host σ} {value : α}
    (yields : x.Yields host value after) : (before host).Told after (arguments host) none := by
  rcases tells host with ⟨refusal, toldAfter, accepted⟩
  rw [accepted value after yields, yields] at toldAfter
  exact toldAfter

/-- A sequence prints what its first part prints and then, if that succeeds, what the rest
prints. -/
theorem bind (first : x.Tells before arguments)
    (rest : ∀ value, (next value).Tells id (more value)) :
    (x >>= next).Tells before fun host => arguments host ++ x.followedBy more host := by
  intro host
  rcases outcome : x.outcome host with ⟨stop | value, middle⟩
  · rcases first host with ⟨refusal, toldFirst, _⟩
    refine ⟨refusal, ?_, ?_⟩
    · simpa only [outcome_bind, outcome, followedBy, List.append_nil] using toldFirst
    · simp [Yields, outcome_bind, outcome]
  · have toldFirst := first.told outcome
    rcases rest value middle with ⟨refusal, toldRest, accepted⟩
    refine ⟨refusal, ?_, ?_⟩
    · simpa only [outcome_bind, outcome, followedBy] using toldFirst.append toldRest
    · intro result after yields
      rw [Yields, outcome_bind, outcome] at yields
      exact accepted result after yields

theorem bind_quiet (first : x.Tells before arguments) (rest : ∀ value, (next value).Quiet) :
    (x >>= next).Tells before arguments := by
  have nothing : ∀ host, x.followedBy (fun _ _ => []) host = [] := by
    intro host
    simp only [followedBy]
    split <;> rfl
  have both := first.bind rest
  simpa only [nothing, List.append_nil] using both

/-- A sequence whose first part is quiet prints what the rest prints. -/
theorem quiet_bind (first : x.Tells before fun _ => [])
    (rest : ∀ value, (next value).Tells id (more value)) :
    (x >>= next).Tells before (x.followedBy more) :=
  first.bind rest

end Tells

namespace Quiet

theorem ofHostFree {x : (σ : Type) → HostM σ α} (free : HostFree x) : Quiet (x σ) := by
  rcases free with ⟨result, outcome⟩
  intro host
  rw [outcome σ host]
  exact ⟨none, .refl host, fun _ _ _ => rfl⟩

theorem pure (value : α) : Quiet (Pure.pure value : HostM σ α) :=
  fun host => ⟨none, .refl host, fun _ _ _ => rfl⟩

theorem fail (error : Error) : Quiet (HostM.fail error : HostM σ α) :=
  fun host => ⟨none, .refl host, fun _ _ _ => rfl⟩

theorem record {event : Event} (quiet : event.argument? = none) :
    Quiet (HostM.record event : HostM σ Unit) :=
  fun host => ⟨none, host.told_record quiet, fun _ _ _ => rfl⟩

theorem bind {x : HostM σ α} {next : α → HostM σ β} (first : Quiet x)
    (rest : ∀ value, Quiet (next value)) : Quiet (x >>= next) :=
  first.bind_quiet rest

theorem compositional : Compositional fun _ x => Quiet (x σ) :=
  ⟨ofHostFree, record, bind⟩

end Quiet

end HostM

namespace Instantiation

variable [Sink σ]

/-- Instantiation begins with a new counter. -/
theorem tells_fresh (limits : ResourceLimits) :
    (modify (Host.fresh limits) : HostM σ Unit).Tells (Host.fresh limits) fun _ => [] :=
  fun host => ⟨none, .refl (host.fresh limits), fun _ _ _ => rfl⟩

variable [Engine]

theorem quiet_makeMemory (type : MemoryType) : (makeMemory type : HostM σ Memory).Quiet := by
  intro host
  refine ⟨none, ?_, fun _ _ _ => rfl⟩
  simp only [makeMemory, HostM.outcome_bind, HostM.outcome_get]
  split
  · exact .refl host
  · rename_i approved after answer
    have asked := Run.askMemory_told answer
    simp only [HostM.outcome_bind, HostM.outcome_set]
    split
    · split
      · exact asked
      · split <;> exact asked
    · exact asked

theorem quiet_makeTable (type : TableType) : (makeTable type : HostM σ Table).Quiet := by
  intro host
  refine ⟨none, ?_, fun _ _ _ => rfl⟩
  simp only [makeTable, HostM.outcome_bind, HostM.outcome_get]
  split
  · split <;> exact .refl host
  · exact .refl host

theorem quiet_makeStore (m : Module) : (makeStore m : HostM σ Store).Quiet :=
  HostM.Quiet.compositional.sequential.makeStore quiet_makeMemory quiet_makeTable m

theorem tells_admission (limits : ResourceLimits) (size : Nat) (m : Module) :
    (admission limits size m : HostM σ LinkedModule).Tells (Host.fresh limits) fun _ => [] := by
  simp only [admission]
  have parts : Compositional fun _ x => (x σ).Quiet := HostM.Quiet.compositional
  refine (tells_fresh limits).bind_quiet fun _ => .bind (.record rfl) fun _ => ?_
  refine .bind (parts.checkImports _) fun _ => ?_
  refine .bind (parts.sequential.addToLinker _) fun linker => ?_
  refine .bind (parts.sequential.link linker m) fun linked => ?_
  exact .bind (parts.sequential.checkCounts m limits) fun _ => .pure linked

/-- The numbers with which a function that is called without arguments calls the host function
within some steps. -/
def callArguments (steps : Nat) (host : Host σ) (inst : Instance) (func : Func) : List Int32 :=
  Run.hostArguments steps ⟨host, .ofCall inst func⟩

theorem callAfter_told (steps : Nat) (host : Host σ) (inst : Instance) (func : Func) :
    host.Told (callAfter steps host inst func).state.host (callArguments steps host inst func)
      (callAfter steps host inst func).refusal? :=
  Run.advance_told steps ⟨host, .ofCall inst func⟩

/-- The numbers that the start function prints, if there is one. -/
def startArguments (steps : Nat) (inst : Instance) (host : Host σ) : List Int32 :=
  match inst.module.start.bind inst.module.callee? with
  | some (.defined func) => callArguments steps host inst func
  | _ => []

theorem tells_start (steps : Nat) (inst : Instance) :
    (start steps inst : HostM σ Instance).Tells id (startArguments steps inst) := by
  intro host
  simp only [HostM.Yields, outcome_start, startArguments]
  rcases inst.module.start.bind inst.module.callee? with _ | _ | func
  · exact ⟨none, .refl host, fun _ _ _ => rfl⟩
  · exact ⟨none, .refl host, fun _ _ _ => rfl⟩
  · have told := callAfter_told steps host inst func
    simp only
    generalize callAfter steps host inst func = progress at told ⊢
    rcases progress with run | ⟨run, results | abort | _⟩
    · exact ⟨none, told, fun _ _ _ => rfl⟩
    · exact ⟨none, told, fun _ _ _ => rfl⟩
    -- The abort may be a refusal, but then the module is not instantiated.
    · exact ⟨_, told, by simp⟩
    · exact ⟨none, told, fun _ _ _ => rfl⟩

/-- The numbers that a module prints while it is instantiated. -/
def instantiateArguments (steps : Nat) (limits : ResourceLimits) (bytes : ByteArray) :
    Host σ → List Int32 :=
  match Module.load? bytes with
  | none => fun _ => []
  | some m =>
    (admission limits bytes.size m).followedBy fun linked =>
      (makeStore m).followedBy fun store => startArguments steps ⟨linked, store⟩

theorem tells_instantiate (steps : Nat) (limits : ResourceLimits) (bytes : ByteArray) :
    (instantiate steps limits bytes : HostM σ Instance).Tells (Host.fresh limits)
      (instantiateArguments steps limits bytes) := by
  cases loaded : Module.load? bytes with
  | none =>
      simp only [instantiate, instantiateArguments, loaded]
      refine (tells_fresh limits).bind_quiet fun _ => ?_
      exact .bind (.record rfl) fun _ => .fail _
  | some m =>
      simp only [instantiate_eq steps limits loaded, instantiateArguments, loaded]
      refine (tells_admission limits bytes.size m).quiet_bind fun linked => ?_
      refine (quiet_makeStore m).quiet_bind fun store => ?_
      refine (tells_start steps ⟨linked, store⟩).bind_quiet fun inst => ?_
      refine .bind ?_ fun host => .bind (.record rfl) fun _ => .pure inst
      exact fun host => ⟨none, .refl host, fun _ _ _ => rfl⟩

end Instantiation

theorem quiet_resolveEntry [Sink σ] (name : String) (inst : Instance) :
    (resolveEntry name inst : HostM σ Entry).Quiet :=
  HostM.Quiet.compositional.resolveEntry name inst

section Runs

variable [Engine] [Sink σ]

theorem Makes.told {m : Module} {first host : Host σ} {store : Store}
    (makes : Makes m first host store) : first.Told host [] none := by
  have quiet : Sequential fun _ x => (x σ).Quiet := HostM.Quiet.compositional.sequential
  cases makes with
  | memories types part made => exact (quiet.makeMemories quiet_makeMemory m types).told made
  | tables types part made =>
      exact (quiet.makeTables quiet_makeMemory quiet_makeTable m types).told made
  | elems segments part made =>
      exact (quiet.fillTables quiet_makeMemory quiet_makeTable m segments).told made
  | datas segments part made =>
      exact (quiet.fillMemories quiet_makeMemory quiet_makeTable m segments).told made

/-- The numbers that an entry point prints. -/
def invokeArguments (steps : Nat) (inst : Instance) (entry : Entry) (host : Host σ) : List Int32 :=
  callArguments steps (host.record (.invoking entry.name)) inst entry.func

theorem tells_invoke (steps : Nat) (inst : Instance) (entry : Entry) :
    (invoke steps inst entry : HostM σ Completion).Tells id (invokeArguments steps inst entry) := by
  intro host
  have invoking : host.Told (host.record (.invoking entry.name)) [] none := host.told_record rfl
  have told := invoking.append
    (callAfter_told steps (host.record (.invoking entry.name)) inst entry.func)
  simp only [HostM.Yields, outcome_invoke]
  generalize callAfter steps (host.record (.invoking entry.name)) inst entry.func = progress
    at told ⊢
  rcases progress with run | ⟨run, results | abort | _⟩
  · exact ⟨none, told, fun _ _ _ => rfl⟩
  · refine ⟨none, ?_, fun _ _ _ => rfl⟩
    simp only
    split
    · exact told
    · exact told.quietly (run.host.told_record rfl)
  · exact ⟨_, told.quietly (run.host.told_record rfl), by simp⟩
  · exact ⟨none, told, fun _ _ _ => rfl⟩

/-- The numbers that a module prints in a whole run. -/
def runArguments (steps : Nat) (config : Config) (bytes : ByteArray) (host : Host σ) : List Int32 :=
  instantiateArguments steps config.limits bytes host ++
    (instantiate steps config.limits bytes).followedBy
      (fun inst => (resolveEntry config.entryPoint inst).followedBy (invokeArguments steps inst))
      host

theorem tells_runBytes (steps : Nat) (config : Config) (bytes : ByteArray) :
    (runBytes steps config bytes : HostM σ Completion).Tells (Host.fresh config.limits)
      (runArguments steps config bytes) := by
  refine (tells_instantiate steps config.limits bytes).bind fun inst => ?_
  exact (quiet_resolveEntry config.entryPoint inst).quiet_bind (tells_invoke steps inst)

/-- The run of an artifact comes to this host, and its module has called the host function with
these numbers by then: while the store is made, after any number of steps of the start function,
when the module is instantiated, after any number of steps of the entry point, and at the end of the
run. -/
inductive History (config : Config) (bytes : ByteArray) (first : Host σ) :
    Host σ → List Int32 → Prop
  | making {m : Module} {linked : LinkedModule} {admitted host : Host σ} {store : Store}
      (loaded : Module.load? bytes = some m)
      (admits : (admission config.limits bytes.size m).Yields first linked admitted)
      (makes : Makes m admitted host store) :
      History config bytes first host []
  | starting {host : Host σ} {inst : Instance} {func : Func}
      (starts : StartCall config bytes first host inst func) (steps : Nat) :
      History config bytes first (callAfter steps host inst func).state.host
        (callArguments steps host inst func)
  | instantiated {steps : Nat} {inst : Instance} {host : Host σ}
      (instantiated : (instantiate steps config.limits bytes).Yields first inst host) :
      History config bytes first host (instantiateArguments steps config.limits bytes first)
  | invoking {steps : Nat} {inst : Instance} {host resolved : Host σ} {entry : Entry}
      (instantiated : (instantiate steps config.limits bytes).Yields first inst host)
      (resolves : (resolveEntry config.entryPoint inst).Yields host entry resolved) (more : Nat) :
      History config bytes first
        (callAfter more (resolved.record (.invoking entry.name)) inst entry.func).state.host
        (instantiateArguments steps config.limits bytes first ++
          callArguments more (resolved.record (.invoking entry.name)) inst entry.func)
  | ended (steps : Nat) :
      History config bytes first ((runBytes steps config bytes).outcome first).2
        (runArguments steps config bytes first)

theorem History.told {config : Config} {bytes : ByteArray} {first host : Host σ}
    {arguments : List Int32} (history : History config bytes first host arguments) :
    ∃ refusal, (first.fresh config.limits).Told host arguments refusal := by
  cases history with
  | making loaded admits makes =>
      exact ⟨none, ((tells_admission _ _ _).told admits).append makes.told⟩
  | starting starts steps =>
      rcases starts with ⟨loaded, admits, made, named⟩
      have ready := ((tells_admission _ _ _).told admits).append ((quiet_makeStore _).told made)
      exact ⟨_, ready.append (callAfter_told steps _ _ _)⟩
  | instantiated instantiated => exact ⟨none, (tells_instantiate _ _ _).told instantiated⟩
  | @invoking steps inst host resolved entry instantiated resolves more =>
      have toldStart := (tells_instantiate _ _ _).told instantiated
      have ready := toldStart.quietly ((quiet_resolveEntry _ _).told resolves)
      have invoking : resolved.Told (resolved.record (.invoking entry.name)) [] none :=
        resolved.told_record rfl
      exact ⟨_, (ready.quietly invoking).append (callAfter_told more _ _ _)⟩
  | ended steps =>
      rcases tells_runBytes steps config bytes first with ⟨refusal, told, _⟩
      exact ⟨refusal, told⟩

/-- At every point of a run, the counter is the number of calls that the module has made of the host
function, the log has gained exactly the numbers of these calls, in order, and the sink has been
handed exactly these numbers, once each. No number but the last one was refused. So a completed run
reports as many host calls as the sink has accepted numbers. -/
theorem host_calls_exact (config : Config) (bytes : ByteArray) (first : Host σ) :
    (∀ host arguments, History config bytes first host arguments →
        host.calls = arguments.length ∧
          host.logged = first.logged ++ arguments ∧
          host.sink = Sink.emitAll first.sink arguments ∧
          ∀ reply ∈ (Sink.replies first.sink arguments).dropLast, reply = none) ∧
      ∀ steps completion after, (runBytes steps config bytes).Yields first completion after →
        completion.hostCalls
          = (Sink.replies first.sink (runArguments steps config bytes first)).count none := by
  refine ⟨?_, ?_⟩
  · intro host arguments history
    rcases history.told with ⟨refusal, told⟩
    refine ⟨?_, told.logged, told.sink, told.replies_dropLast⟩
    rw [told.calls]
    exact Nat.zero_add _
  · intro steps completion after completes
    have told := (tells_runBytes steps config bytes).told completes
    have accepted : Sink.replies first.sink (runArguments steps config bytes first)
        = List.replicate (runArguments steps config bytes first).length none := told.length_replies
    have calls : after.calls = 0 + (runArguments steps config bytes first).length := told.calls
    rw [runBytes_report completes, accepted, List.count_replicate_self]
    exact calls.trans (Nat.zero_add _)

end Runs

section

open PlainEngine

/-- The growing module prints four numbers. A recorder with room for two of them is handed a third
one, which it refuses, and not the fourth. -/
theorem growingModule_host_calls :
    ∃ host, History fourPages growingModule { sink := ({ capacity := some 2 } : Recorder) } host
        [1, 0, 1] ∧
      host.calls = 3 ∧ host.logged = [1, 0, 1] ∧
      host.sink = Sink.emitAll ({ capacity := some 2 } : Recorder) [1, 0, 1] ∧
      ∀ reply ∈ (Sink.replies ({ capacity := some 2 } : Recorder) [1, 0, 1]).dropLast,
        reply = none := by
  have arguments : runArguments 20 fourPages growingModule
      { sink := ({ capacity := some 2 } : Recorder) } = [1, 0, 1] := by
    decide +kernel
  have history :
      History fourPages growingModule { sink := ({ capacity := some 2 } : Recorder) } _ _ :=
    .ended 20
  rw [arguments] at history
  have calls := (host_calls_exact fourPages growingModule _).1 _ _ history
  exact ⟨_, history, calls.1, calls.2.1, calls.2.2.1, calls.2.2.2⟩

end

end WasmHost
