import Mathlib
import WasmHost.Proofs.Host.Linking

/-!
# What code at work leaves in the log

While memories are made and while code runs, the log gets the numbers printed and the growths of
memories, in any order but for one rule: that an approved growth has failed is logged directly after
the approval. `Chatter` describes such a stretch of the log. It is proved of one step, then of any
number of steps, and then of all of instantiation between the import check and the event that ends
it.
-/

namespace WasmHost

open Instantiation

variable {σ : Type}

/-- What the log gets while memories are made and while code runs: the numbers printed, and the
growths of memories. A ceiling is named only if it is the configured one. -/
inductive Chatter (limits : ResourceLimits) : List Event → Prop
  | nil : Chatter limits []
  | putn (value : Int32) {rest : List Event} (others : Chatter limits rest) :
      Chatter limits (.putn value :: rest)
  | overMaximum (current desired maximum : UInt64) {rest : List Event}
      (others : Chatter limits rest) :
      Chatter limits (.growthOverMaximum current desired maximum :: rest)
  | overCeiling (current desired : UInt64) {ceiling : UInt64} {rest : List Event}
      (configured : limits.maxMemoryBytes = some ceiling) (others : Chatter limits rest) :
      Chatter limits (.growthOverCeiling current desired ceiling :: rest)
  | growing (current desired : UInt64) {rest : List Event} (others : Chatter limits rest) :
      Chatter limits (.growing current desired :: rest)
  | growthFailed (current desired : UInt64) (reason : String) {rest : List Event}
      (others : Chatter limits rest) :
      Chatter limits (.growing current desired :: .growthFailed reason :: rest)

theorem Chatter.append {limits : ResourceLimits} {events more : List Event}
    (first : Chatter limits events) (second : Chatter limits more) :
    Chatter limits (events ++ more) := by
  induction first with
  | nil => exact second
  | putn value _ ih => exact .putn value ih
  | overMaximum current desired maximum _ ih => exact .overMaximum current desired maximum ih
  | overCeiling current desired configured _ ih => exact .overCeiling current desired configured ih
  | growing current desired _ ih => exact .growing current desired ih
  | growthFailed current desired reason _ ih => exact .growthFailed current desired reason ih

/-- Between two hosts the log has got these events. The limits are still the same. -/
structure Host.Logs (host after : Host σ) (events : List Event) : Prop where
  events : after.events.toList = host.events.toList ++ events
  limits : after.limiter.limits = host.limiter.limits

namespace Host.Logs

variable {host middle after : Host σ} {events more : List Event}

theorem refl (host : Host σ) : host.Logs host [] :=
  ⟨(List.append_nil _).symm, rfl⟩

theorem append (first : host.Logs middle events) (second : middle.Logs after more) :
    host.Logs after (events ++ more) :=
  ⟨by rw [second.events, first.events, List.append_assoc], second.limits.trans first.limits⟩

theorem push {event : Event} (pushed : after.events = host.events.push event)
    (limits : after.limiter.limits = host.limiter.limits) : host.Logs after [event] :=
  ⟨by rw [pushed, Array.toList_push], limits⟩

theorem record (host : Host σ) (event : Event) : host.Logs (host.record event) [event] :=
  .push rfl rfl

end Host.Logs

/-- Between two hosts the log has got what it gets from code at work. -/
def Host.Chatters (host after : Host σ) : Prop :=
  ∃ events, Chatter host.limiter.limits events ∧ host.Logs after events

namespace Host.Chatters

variable {host middle after : Host σ}

theorem refl (host : Host σ) : host.Chatters host :=
  ⟨[], .nil, .refl host⟩

theorem trans (first : host.Chatters middle) (second : middle.Chatters after) :
    host.Chatters after := by
  rcases first with ⟨events, chatter, logs⟩
  rcases second with ⟨more, moreChatter, moreLogs⟩
  rw [logs.limits] at moreChatter
  exact ⟨events ++ more, chatter.append moreChatter, logs.append moreLogs⟩

end Host.Chatters

namespace Run

/-- The limiter logs one event for each of its answers, and an approval if it approves. -/
theorem askMemory_logs {host after : Host σ} {current desired : Nat} {maximum : Option Nat}
    {approved : Bool} (answer : host.askMemory current desired maximum = some (approved, after)) :
    ∃ event, host.Logs after [event] ∧ Chatter host.limiter.limits [event] ∧
      (approved = true → ∃ current desired, event = .growing current desired) := by
  simp only [Host.askMemory] at answer
  split at answer
  · simp at answer
  · rename_i verdict asked
    simp only [Option.some.injEq, Prod.mk.injEq] at answer
    rcases answer with ⟨rfl, rfl⟩
    refine ⟨verdict.event, .push rfl (Limiter.limits_of_memoryGrowing asked), ?_⟩
    have decision := host.limiter.memoryGrowing_decision (.ofNat current) (.ofNat desired)
      (maximum.map .ofNat)
    rw [asked] at decision
    cases decision with
    | overMaximum bound declared exceeds => exact ⟨.overMaximum _ _ _ .nil, by simp⟩
    | overCeiling allowed fits ceiling configured exceeds =>
        exact ⟨.overCeiling _ _ configured .nil, by simp⟩
    | approved allowed fits below => exact ⟨.growing _ _ .nil, fun _ => ⟨_, _, rfl⟩⟩

theorem askMemory_chatters {host after : Host σ} {current desired : Nat} {maximum : Option Nat}
    {approved : Bool} (answer : host.askMemory current desired maximum = some (approved, after)) :
    host.Chatters after := by
  rcases askMemory_logs answer with ⟨event, logs, chatter, _⟩
  exact ⟨[event], chatter, logs⟩

variable [Engine]

theorem growMemory_chatters (host : Host σ) (machine : Machine) (index pages : Nat) :
    host.Chatters (growMemory host machine index pages).state.host := by
  simp only [growMemory]
  split
  · exact .refl host
  · split
    · exact .refl host
    · split
      · exact .refl host
      · rename_i answer
        exact askMemory_chatters answer
      · rename_i after answer
        split
        · exact askMemory_chatters answer
        · rcases askMemory_logs answer with ⟨event, logs, _, approval⟩
          rcases approval rfl with ⟨current, desired, rfl⟩
          refine ⟨_, .growthFailed current desired _ .nil, logs.append (.push rfl ?_)⟩
          exact Limiter.limits_memoryGrowFailed after.limiter

theorem growTable_chatters (host : Host σ) (machine : Machine) (index n : Nat) (ref : Ref) :
    host.Chatters (growTable host machine index n ref).state.host := by
  simp only [growTable]
  split
  · exact .refl host
  · split
    · exact .refl host
    · split <;> exact .refl host

variable [Sink σ]

/-- A step logs a number printed, a growth, or nothing. -/
theorem step_chatters (run : Run σ) : run.host.Chatters run.step.state.host := by
  cases stepped : run.machine.step with
  | emit machine value =>
      rw [step_of_emit stepped]
      rcases Sink.emit run.host.sink value.toInt32 with ⟨_ | fault, sink⟩
      · exact ⟨_, .putn value.toInt32 .nil, .push rfl rfl⟩
      · exact ⟨_, .putn value.toInt32 .nil, .push rfl rfl⟩
  | next machine =>
      simp only [step, stepped]
      exact .refl run.host
  | done machine results =>
      simp only [step, stepped]
      exact .refl run.host
  | trap machine reason =>
      simp only [step, stepped]
      exact .refl run.host
  | growMemory machine index pages =>
      simp only [step, stepped]
      exact growMemory_chatters run.host machine index pages
  | growTable machine index n ref =>
      simp only [step, stepped]
      exact growTable_chatters run.host machine index n ref

theorem advance_chatters (steps : Nat) (run : Run σ) :
    run.host.Chatters (run.advance steps).state.host := by
  have keeps : ∀ later : Run σ, run.host.Chatters later.host →
      run.host.Chatters later.step.state.host := by
    intro later chatters
    exact chatters.trans later.step_chatters
  exact advance_invariant keeps steps (.refl run.host)

end Run

namespace HostM

variable {α β : Type}

/-- The computation logs nothing but what code at work does. -/
def Chatters (x : HostM σ α) : Prop :=
  ∀ host : Host σ, host.Chatters (x.outcome host).2

namespace Chatters

theorem pure (value : α) : Chatters (Pure.pure value : HostM σ α) :=
  fun host => .refl host

theorem ofGet : Chatters (get : HostM σ (Host σ)) :=
  fun host => .refl host

theorem reject [Engine] (fault : InstantiationFault) :
    Chatters (HostM.reject fault : HostM σ α) :=
  fun host => .refl host

theorem bind {x : HostM σ α} {next : α → HostM σ β} (first : Chatters x)
    (rest : ∀ value, Chatters (next value)) : Chatters (x >>= next) := by
  intro host
  have chatters := first host
  rw [outcome_bind]
  generalize x.outcome host = outcome at chatters
  rcases outcome with ⟨stop | value, middle⟩
  · exact chatters
  · exact chatters.trans (rest value middle)

theorem sequential [Engine] : Sequential fun _ x => (x σ).Chatters :=
  ⟨pure, reject, bind⟩

theorem of_yields {x : HostM σ α} (chatters : Chatters x) {host after : Host σ} {value : α}
    (yields : x.Yields host value after) : host.Chatters after := by
  have logged := chatters host
  rwa [yields] at logged

theorem of_stops {x : HostM σ α} (chatters : Chatters x) {host after : Host σ} {stop : Stop}
    (stops : x.Stops host stop after) : host.Chatters after := by
  have logged := chatters host
  rwa [stops] at logged

end Chatters

end HostM

namespace Instantiation

variable [Engine]

theorem chatters_makeMemory (type : MemoryType) : (makeMemory type : HostM σ Memory).Chatters := by
  intro host
  simp only [makeMemory, HostM.outcome_bind, HostM.outcome_get]
  split
  · exact .refl host
  · rename_i approved after answer
    have asked : host.Chatters after := Run.askMemory_chatters answer
    simp only [HostM.outcome_bind, HostM.outcome_set]
    split
    · split
      · exact asked
      · split <;> exact asked
    · exact asked

theorem chatters_makeTable (type : TableType) : (makeTable type : HostM σ Table).Chatters := by
  apply HostM.Chatters.bind .ofGet
  intro host
  split
  · split
    · exact .pure _
    · exact .reject _
  · exact .reject _

variable [Sink σ]

theorem chatters_start (steps : Nat) (inst : Instance) :
    (start steps inst : HostM σ Instance).Chatters := by
  intro host
  rw [outcome_start]
  split
  · rename_i func _
    have advanced : host.Chatters (callAfter steps host inst func).state.host :=
      Run.advance_chatters steps ⟨host, .ofCall inst func⟩
    generalize callAfter steps host inst func = progress at advanced
    rcases progress with run | ⟨run, results | abort | _⟩ <;> exact advanced
  · exact .refl host

/-- All of instantiation between linking and the event that ends it. -/
def preparation (steps : Nat) (limits : ResourceLimits) (linked : LinkedModule) :
    HostM σ Instance := do
  checkCounts linked.toModule limits
  let store ← makeStore linked.toModule
  start steps ⟨linked, store⟩

theorem installation_eq (steps : Nat) (limits : ResourceLimits) (linked : LinkedModule) :
    (installation steps limits linked : HostM σ Instance) = (do
      let inst ← preparation steps limits linked
      HostM.record (.instantiated linked.imports.size linked.exports.size (← get).limiter.current)
      pure inst) := by
  simp only [installation, preparation, bind_assoc]

theorem chatters_preparation (steps : Nat) (limits : ResourceLimits) (linked : LinkedModule) :
    (preparation steps limits linked : HostM σ Instance).Chatters := by
  have parts : Sequential fun _ x => (x σ).Chatters := HostM.Chatters.sequential
  apply HostM.Chatters.bind (parts.checkCounts linked.toModule limits)
  intro _
  apply HostM.Chatters.bind
    (parts.makeStore chatters_makeMemory chatters_makeTable linked.toModule)
  intro store
  exact chatters_start steps ⟨linked, store⟩

end Instantiation

end WasmHost
