import Mathlib
import WasmHost.Proofs.Host.Coupling
import WasmHost.Proofs.Host.Truncation

/-!
# Modules run one after the other

Several modules are run with one host, one after the other. Each of them gets a new store, limiter
and count of host calls, but they share the log and the recorder, whatever the modules before them
have done and however they ended. This file proves that nothing else is shared. A module does what
it does with a host of its own, whose recorder is empty and has as much room as the common one has
left. What is recorded and logged in common is what the modules record and log apart, in order.

The two hosts are related by `Host.Resumes`: the common host has gone on from where it was before
the module as the module's own host has from the start. This is a coupling that no run ever leaves.
-/

namespace WasmHost

open Instantiation

/-- An empty recorder with the room that another one has left. -/
def Recorder.emptied (recorder : Recorder) : Recorder where
  capacity := recorder.capacity.map (· - recorder.values.size)
  fault := recorder.fault

@[simp]
theorem Recorder.values_extend_emptied (recorder : Recorder) (values : List Int32) :
    (recorder.emptied.extend values).values = values.toArray := by
  simp [extend, emptied]

theorem Recorder.hasRoom_emptied (recorder : Recorder) (values : List Int32) :
    (recorder.emptied.extend values).hasRoom = (recorder.extend values).hasRoom := by
  cases limited : recorder.capacity with
  | none => simp [hasRoom, extend, emptied, limited]
  | some capacity =>
      simp only [hasRoom, extend, emptied, limited, Option.map_some, Option.all_some,
        Array.size_append, List.size_toArray, List.length_nil]
      rw [decide_eq_decide]
      omega

/-- One recorder has gone on from another one, as it was before, in the way in which an empty one
with the same room has from the start. -/
def Recorder.Continues (before recorder alone : Recorder) : Prop :=
  ∃ values, recorder = before.extend values ∧ alone = before.emptied.extend values

/-- The two recorders go on accepting and refusing the same. -/
theorem Recorder.answers_continues (before : Recorder) : Sink.Answers before.Continues := by
  rintro _ _ ⟨values, rfl, rfl⟩ value
  have room := before.hasRoom_emptied values
  cases accepts : (before.extend values).hasRoom with
  | true =>
      rw [accepts] at room
      refine ⟨none, before.extend (values ++ [value]), before.emptied.extend (values ++ [value]),
        ?_, ?_, values ++ [value], rfl, rfl⟩
      · simp only [Sink.emit, accepts, if_true]
        simp [extend]
      · simp only [Sink.emit, room, if_true]
        simp [extend]
  | false =>
      rw [accepts] at room
      refine ⟨some before.fault, before.extend values, before.emptied.extend values, ?_, ?_,
        values, rfl, rfl⟩
      · simp only [Sink.emit, accepts, Bool.false_eq_true, if_false]
        rfl
      · simp only [Sink.emit, room, Bool.false_eq_true, if_false]
        rfl

/-- The host has gone on from another one, as it was before, in the way in which a host of its own
has from the start. -/
def Host.Resumes (before : Host Recorder) : Host Recorder → Host Recorder → Prop :=
  Host.Matches before.sink.Continues before.events

namespace Host.Resumes

theorem fresh (before : Host Recorder) (limits : ResourceLimits) :
    before.Resumes (before.fresh limits) (Host.fresh limits { sink := before.sink.emptied }) := by
  refine ⟨rfl, rfl, ?_, [], ?_, ?_⟩
  · simp [Host.fresh]
  · simp [Host.fresh]
  · simp [Host.fresh]

variable [Engine]

/-- A run with a common host and the run with a host of its own. -/
def coupling (before : Host Recorder) : Coupling Recorder Recorder :=
  .ofSinks before.sink.answers_continues before.events

theorem outcome {before host alone : Host Recorder} {α : Type} {x : HostM Recorder α}
    (agree : (coupling before).Agree x x) (hosts : before.Resumes host alone) :
    ∃ result hostAfter aloneAfter, x.outcome host = (result, hostAfter) ∧
      x.outcome alone = (result, aloneAfter) ∧ before.Resumes hostAfter aloneAfter :=
  Host.Matches.outcome before.sink.answers_continues agree hosts

end Host.Resumes

section Sessions

variable [Engine] (steps : Nat) (config : Config)

theorem driveFrom_resumes {before host alone : Host Recorder} (hosts : before.Resumes host alone)
    (goal : Goal) (size : Nat) (inst : Instance) :
    (driveFrom steps config goal size inst host).1
        = (driveFrom steps config goal size inst alone).1 ∧
      before.Resumes (driveFrom steps config goal size inst host).2
        (driveFrom steps config goal size inst alone).2 := by
  simp only [driveFrom, hosts.calls]
  split
  · exact ⟨rfl, hosts⟩
  · have resolves := (Host.Resumes.coupling before).agree_resolveEntry config.entryPoint inst
    rcases hosts.outcome resolves with ⟨resolved, _, _, common, apart, hostsResolved⟩
    rw [common, apart]
    cases resolved with
    | error stop => exact ⟨rfl, hostsResolved⟩
    | ok entry =>
        simp only
        split
        · exact ⟨rfl, hostsResolved⟩
        · have invokes := (Host.Resumes.coupling before).agree_invoke steps inst entry
          rcases hostsResolved.outcome invokes with ⟨invoked, _, _, common, apart, hostsInvoked⟩
          rw [common, apart]
          cases invoked <;> exact ⟨rfl, hostsInvoked⟩

/-- A module does the same after others as it does with a host of its own. -/
theorem drive_resumes (goal : Goal) (artifact : Artifact) (before : Host Recorder) :
    (drive steps config goal artifact before).1
        = (drive steps config goal artifact { sink := before.sink.emptied }).1 ∧
      before.Resumes (drive steps config goal artifact before).2
        (drive steps config goal artifact { sink := before.sink.emptied }).2 := by
  have instantiates := (Host.Resumes.coupling before).agree_instantiateFresh steps config.limits
    artifact.bytes
  rcases (Host.Resumes.fresh before config.limits).outcome instantiates with
    ⟨made, host, alone, common, apart, hosts⟩
  simp only [drive_eq, outcome_instantiate, common, apart]
  cases made with
  | error stop => exact ⟨rfl, hosts⟩
  | ok inst => exact driveFrom_resumes steps config hosts goal artifact.size inst

/-- Takes each module through the stages with a host of its own. Its recorder is empty and has the
room that is left of a capacity after what the modules before it have recorded. -/
def driveApart (capacity : Option Nat) (fault : IoError) :
    (recorded : Nat) → List (Goal × Artifact) → List (Journey × Host Recorder)
  | _, [] => []
  | recorded, (goal, artifact) :: rest =>
    let alone := drive steps config goal artifact
      { sink := { capacity := capacity.map (· - recorded), fault } }
    alone :: driveApart capacity fault (recorded + alone.2.sink.values.size) rest

/-- The modules of a session that starts with the given host, each with a host of its own. -/
def driveApartFrom (host : Host Recorder) (modules : List (Goal × Artifact)) :
    List (Journey × Host Recorder) :=
  driveApart steps config host.sink.capacity host.sink.fault host.sink.values.size modules

/-- A session goes on after its first module with the host that the module leaves. -/
theorem driveApartFrom_cons (host : Host Recorder) (goal : Goal) (artifact : Artifact)
    (rest : List (Goal × Artifact)) :
    driveApartFrom steps config host ((goal, artifact) :: rest) =
      drive steps config goal artifact { sink := host.sink.emptied } ::
        driveApartFrom steps config (drive steps config goal artifact host).2 rest := by
  rcases (drive_resumes steps config goal artifact host).2.sink with ⟨values, common, alone⟩
  have recorded : values.length
      = (drive steps config goal artifact { sink := host.sink.emptied }).2.sink.values.size := by
    simp [alone]
  simp only [driveApartFrom, driveApart]
  rw [common]
  simp only [Recorder.extend, Array.size_append, List.size_toArray, recorded]
  rfl

/-- The journey of a module, with the calls and the limiter of its store. -/
def Journey.withStore (driven : Journey × Host Recorder) : Journey × Nat × Limiter :=
  (driven.1, driven.2.calls, driven.2.limiter)

theorem driveAll_journeys (modules : List (Goal × Artifact)) (host : Host Recorder) :
    (driveAll steps config modules host).map Journey.withStore
      = (driveApartFrom steps config host modules).map Journey.withStore := by
  induction modules generalizing host with
  | nil => rfl
  | cons entry rest ih =>
      rcases entry with ⟨goal, artifact⟩
      rcases drive_resumes steps config goal artifact host with ⟨journey, hosts⟩
      rw [driveApartFrom_cons]
      simp only [driveAll, List.map_cons, ih]
      simp only [Journey.withStore, journey, hosts.calls, hosts.limiter]

/-- What has been recorded and logged after any number of modules. -/
theorem driveAll_records (modules : List (Goal × Artifact)) (host : Host Recorder) {k : Nat}
    {after : Journey × Host Recorder}
    (reached : (driveAll steps config modules host)[k]? = some after) :
    after.2.sink = host.sink.extend
        (((driveApartFrom steps config host modules).take (k + 1)).flatMap
          (·.2.sink.values.toList)) ∧
      after.2.events.toList = host.events.toList ++
        ((driveApartFrom steps config host modules).take (k + 1)).flatMap (·.2.events.toList) := by
  -- Each module starts where the last one has left the common host, so the host is arbitrary.
  induction modules generalizing host k with
  | nil => simp [driveAll] at reached
  | cons entry rest ih =>
      rcases entry with ⟨goal, artifact⟩
      rcases drive_resumes steps config goal artifact host with ⟨_, hosts⟩
      rcases hosts.sink with ⟨values, common, alone⟩
      have recorded : values
          = (drive steps config goal artifact
              { sink := host.sink.emptied }).2.sink.values.toList := by
        simp [alone]
      rw [driveApartFrom_cons, List.take_succ_cons, List.flatMap_cons, List.flatMap_cons]
      cases k with
      | zero =>
          simp only [driveAll, List.getElem?_cons_zero, Option.some.injEq] at reached
          subst reached
          refine ⟨?_, ?_⟩
          · simp only [List.take_zero, List.flatMap_nil, List.append_nil, ← recorded]
            exact common
          · simp [hosts.events]
      | succ k =>
          simp only [driveAll, List.getElem?_cons_succ] at reached
          rcases ih _ reached with ⟨sink, events⟩
          refine ⟨?_, ?_⟩
          · rw [sink, common, Recorder.extend_extend, ← recorded]
          · rw [events, hosts.events, Array.toList_append, List.append_assoc]

end Sessions

theorem join_flatMap {α : Type} (lines : α → List String) (items : List α) :
    String.join (items.flatMap lines)
      = String.join (items.map fun item => String.join (lines item)) := by
  induction items with
  | nil => rfl
  | cons item rest ih => simp [ih]

/-- Modules that share a recorder do what they do apart. Each of them passes the same milestones,
ends for the same reason and leaves the same calls and the same limiter as with a host of its own,
whose recorder has the room that the modules before it have left. After any of them, the numbers
recorded, the text that they are rendered as and the log are those of the modules so far, one after
the other. -/
theorem modules_isolated [Engine] (steps : Nat) (config : Config) (capacity : Option Nat)
    (fault : IoError) (modules : List (Goal × Artifact)) :
    let session := driveAll steps config modules { sink := { capacity, fault } }
    let apart := driveApart steps config capacity fault 0 modules
    session.map Journey.withStore = apart.map Journey.withStore ∧
      ∀ k after, session[k]? = some after →
        after.2.sink.values.toList = (apart.take (k + 1)).flatMap (·.2.sink.values.toList) ∧
          after.2.sink.rendered = String.join ((apart.take (k + 1)).map (·.2.sink.rendered)) ∧
          after.2.events.toList = (apart.take (k + 1)).flatMap (·.2.events.toList) := by
  intro session apart
  refine ⟨driveAll_journeys steps config modules _, ?_⟩
  intro k after reached
  rcases driveAll_records steps config modules _ reached with ⟨sink, events⟩
  have recorded : after.2.sink.values.toList
      = (apart.take (k + 1)).flatMap (·.2.sink.values.toList) := by
    rw [sink]
    simp [Recorder.extend, apart, driveApartFrom]
  refine ⟨recorded, ?_, by simpa [apart, driveApartFrom] using events⟩
  simp only [Recorder.rendered, recorded, List.map_flatMap]
  exact join_flatMap _ _

section

open PlainEngine

/-- The growing module twice, with room for five numbers: it completes, and then it is trapped when
it prints the second number of its own. -/
theorem growingModule_isolated :
    ∃ after : Journey × Host Recorder,
      (driveAll 20 fourPages [(.completed, ⟨growingModule⟩), (.completed, ⟨growingModule⟩)]
        { sink := { capacity := some 5 } })[1]? = some after ∧
      after.2.sink.values.toList = [1, 0, 1, -1, 1] := by
  have apart : ((driveApart 20 fourPages (some 5) .brokenPipe 0
      [(.completed, ⟨growingModule⟩), (.completed, ⟨growingModule⟩)]).take 2).flatMap
        (·.2.sink.values.toList) = [1, 0, 1, -1, 1] := by
    decide +kernel
  have isolated := modules_isolated 20 fourPages (some 5) .brokenPipe
    [(.completed, ⟨growingModule⟩), (.completed, ⟨growingModule⟩)]
  have both : 1 < (driveAll 20 fourPages
      [(.completed, ⟨growingModule⟩), (.completed, ⟨growingModule⟩)]
        { sink := ({ capacity := some 5 } : Recorder) }).length := by
    simp [driveAll]
  have reached := List.getElem?_eq_getElem both
  exact ⟨_, reached, (isolated.2 1 _ reached).1.trans apart⟩

end

end WasmHost
