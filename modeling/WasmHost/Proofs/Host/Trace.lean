import Mathlib
import WasmHost.Proofs.Host.Chatter
import WasmHost.Proofs.Host.EntryPoint
import WasmHost.Proofs.Host.Failure

/-!
# Traces

The trace of a run is what it adds to the log. Each stage writes its own events in a fixed order,
with chatter between them. `Trace` has one constructor for each way in which a run can end: it says
what the stages have made of the artifact, and which trace goes with it. So a trace alone tells the
stage that a run has failed in, which is what `failedStage?` reads off.
-/

namespace WasmHost

open Instantiation

variable {σ : Type}

/-- The log of a load that has succeeded, and of the compilation that follows it. -/
def loadEvents (path : String) (size : Nat) : List Event :=
  [.artifactOpening path, .artifactLoaded path size, .compiling size]

def importEvents (items : List Import) : List Event :=
  items.map fun item => .importResolved item.module item.name

/-- The artifact can be read, and it is a valid module with good imports only. -/
structure Linkable (files : Files) (path : String) (bytes : ByteArray) (m : Module) : Prop where
  readable : files.read path = .ok bytes
  loaded : Module.load? bytes = some m
  allGood : ∀ item ∈ m.imports, item.IsPutn

/-- The log up to the import check. -/
def linkEvents (path : String) (size : Nat) (m : Module) : List Event :=
  loadEvents path size ++ importEvents m.imports.toList

def Host.instantiatedEvent (host : Host σ) (m : Module) : Event :=
  .instantiated m.imports.size m.exports.size host.limiter.current

/-- A run comes to this result and leaves this trace. -/
inductive Trace [Engine] [Sink σ] (steps : Nat) (config : Config) (files : Files) (path : String)
    (first : Host σ) : Except Error Completion → List Event → Prop
  | unread {error : Error} (unread : files.read path = .error error) :
      Trace steps config files path first (.error error) [.artifactOpening path]
  | invalid {bytes : ByteArray} {after : Host σ} (readable : files.read path = .ok bytes)
      (invalid : Module.load? bytes = none)
      (stops : (instantiate steps config.limits bytes).Stops (first.loading path bytes.size)
        (.failed (.rejected (.failed (.refused (.invalid bytes))))) after) :
      Trace steps config files path first (.error (.rejected (.failed (.refused (.invalid bytes)))))
        (loadEvents path bytes.size)
  | badImport {bytes : ByteArray} {m : Module} {good rest : List Import} {bad : Import}
      {detail : String} {after : Host σ} (readable : files.read path = .ok bytes)
      (loaded : Module.load? bytes = some m) (parts : m.imports.toList = good ++ bad :: rest)
      (allGood : ∀ item ∈ good, item.IsPutn) (other : ¬bad.IsPutn) (misfit : bad.Misfit detail)
      (stops : (instantiate steps config.limits bytes).Stops (first.loading path bytes.size)
        (.failed (.importUnresolved bad.module bad.name detail)) after) :
      Trace steps config files path first (.error (.importUnresolved bad.module bad.name detail))
        (loadEvents path bytes.size ++ importEvents good)
  | refused {bytes : ByteArray} {m : Module} {events : List Event}
      {fault : InstantiationFault} {after : Host σ} (linkable : Linkable files path bytes m)
      (chatter : Chatter config.limits events)
      (stops : (instantiate steps config.limits bytes).Stops (first.loading path bytes.size)
        (.failed (.rejected fault)) after) :
      Trace steps config files path first (.error (.rejected fault))
        (linkEvents path bytes.size m ++ events)
  | noEntry {bytes : ByteArray} {m : Module} {events : List Event} {inst : Instance} {host : Host σ}
      {error : Error} (linkable : Linkable files path bytes m)
      (chatter : Chatter config.limits events)
      (instantiated : (instantiate steps config.limits bytes).Yields (first.loading path bytes.size)
        inst host)
      (absent : ∀ type, ¬m.Enters config.entryPoint type)
      (stops : (resolveEntry config.entryPoint inst).Stops host (.failed error) host) :
      Trace steps config files path first (.error error)
        (linkEvents path bytes.size m ++ events ++ [host.instantiatedEvent m])
  | trapped {bytes : ByteArray} {m : Module} {events more : List Event} {inst : Instance}
      {host resolved after : Host σ} {entry : Entry} {type : FuncType} {place : List String}
      {abort : Abort} (linkable : Linkable files path bytes m)
      (chatter : Chatter config.limits events)
      (instantiated : (instantiate steps config.limits bytes).Yields (first.loading path bytes.size)
        inst host)
      (enters : m.Enters config.entryPoint type)
      (resolves : (resolveEntry config.entryPoint inst).Yields host entry resolved)
      (moreChatter : Chatter config.limits more)
      (stops : (invoke steps inst entry).Stops resolved
        (.failed (.trapped config.entryPoint (Failure.aborted place abort).reason)) after) :
      Trace steps config files path first
        (.error (.trapped config.entryPoint (Failure.aborted place abort).reason))
        (linkEvents path bytes.size m ++ events ++ [host.instantiatedEvent m]
          ++ [.entryResolved config.entryPoint type, .invoking config.entryPoint] ++ more
          ++ [.trapped config.entryPoint (Failure.aborted place abort).text])
  | returned {bytes : ByteArray} {m : Module} {events more : List Event} {inst : Instance}
      {host resolved after : Host σ} {entry : Entry} {type : FuncType} {results : List Value}
      {completion : Completion} (linkable : Linkable files path bytes m)
      (chatter : Chatter config.limits events)
      (instantiated : (instantiate steps config.limits bytes).Yields (first.loading path bytes.size)
        inst host)
      (enters : m.Enters config.entryPoint type)
      (resolves : (resolveEntry config.entryPoint inst).Yields host entry resolved)
      (moreChatter : Chatter config.limits more)
      (completes : (invoke steps inst entry).Yields resolved completion after)
      (length : results.length = type.results.length) :
      Trace steps config files path first (.ok completion)
        (linkEvents path bytes.size m ++ events ++ [host.instantiatedEvent m]
          ++ [.entryResolved config.entryPoint type, .invoking config.entryPoint] ++ more
          ++ if type.results = [] then [] else [.resultsIgnored config.entryPoint results])

section Stretches

theorem Host.events_loading (host : Host σ) (path : String) (size : Nat) :
    (host.loading path size).events.toList
      = host.events.toList ++ [.artifactOpening path, .artifactLoaded path size] := by
  simp [loading, record]

theorem Host.events_resolving (host : Host σ) (limits : ResourceLimits) (size : Nat)
    (items : List Import) :
    ((host.compiling limits size).resolving items).events.toList
      = host.events.toList ++ .compiling size :: importEvents items := by
  simp [resolving, compiling, record, fresh, importEvents]

variable [Engine] [Sink σ] {steps : Nat} {limits : ResourceLimits} {bytes : ByteArray} {m : Module}
  {host after : Host σ} {inst : Instance}

/-- What instantiation logs after the import check, if it fails. -/
theorem exists_chatter_of_instantiate_stops (loaded : Module.load? bytes = some m)
    (allGood : ∀ item ∈ m.imports, item.IsPutn) {error : Error}
    (stops : (instantiate steps limits bytes).Stops host (.failed error) after) :
    ∃ fault events, error = .rejected fault ∧ Chatter limits events ∧
      after.events.toList = host.events.toList
        ++ .compiling bytes.size :: importEvents m.imports.toList ++ events := by
  rcases Linker.link_offering_iff.mpr allGood with ⟨linked, links⟩
  rw [HostM.Stops, outcome_instantiate_of_linked loaded steps limits host links] at stops
  rcases onlyRejects_installation steps limits linked _ error after stops with ⟨fault, rfl⟩
  rw [installation_eq] at stops
  rcases HostM.bind_stops_iff.mp stops with stops | ⟨inst, started, _, stops⟩
  · rcases (chatters_preparation steps limits linked).of_stops stops with ⟨events, chatter, logs⟩
    refine ⟨fault, events, rfl, chatter, ?_⟩
    rw [logs.events, Host.events_resolving]
  · simp only [HostM.Stops, HostM.outcome_bind, HostM.outcome_get, HostM.outcome_record,
      HostM.outcome_pure, Prod.mk.injEq, reduceCtorEq, false_and] at stops

/-- What instantiation logs after the import check, if it succeeds. -/
theorem exists_chatter_of_instantiate_yields (loaded : Module.load? bytes = some m)
    (allGood : ∀ item ∈ m.imports, item.IsPutn)
    (yields : (instantiate steps limits bytes).Yields host inst after) :
    after.limiter.limits = limits ∧ ∃ events, Chatter limits events ∧
      after.events.toList
        = host.events.toList ++ .compiling bytes.size :: importEvents m.imports.toList ++ events
          ++ [after.instantiatedEvent m] := by
  rcases Linker.link_offering_iff.mpr allGood with ⟨linked, links⟩
  rw [HostM.Yields, outcome_instantiate_of_linked loaded steps limits host links,
    installation_eq] at yields
  rcases HostM.bind_yields_iff.mp yields with ⟨prepared, started, prepares, yields⟩
  simp only [HostM.Yields, HostM.outcome_bind, HostM.outcome_get, HostM.outcome_record,
    HostM.outcome_pure, Prod.mk.injEq, Except.ok.injEq] at yields
  rcases yields with ⟨rfl, rfl⟩
  rcases (chatters_preparation steps limits linked).of_yields prepares with ⟨events, chatter, logs⟩
  refine ⟨logs.limits, events, chatter, ?_⟩
  simp only [Host.record, Array.toList_push, logs.events, Host.events_resolving,
    ← Linker.toModule_of_link links]
  rfl

theorem exists_chatter_of_invoke_stops {entry : Entry} {error : Error}
    (stops : (invoke steps inst entry).Stops host (.failed error) after) :
    ∃ place abort events, error = .trapped entry.name (Failure.aborted place abort).reason ∧
      Chatter host.limiter.limits events ∧
      after.events.toList = host.events.toList ++ .invoking entry.name :: events
        ++ [.trapped entry.name (Failure.aborted place abort).text] := by
  have chatters : (host.record (.invoking entry.name)).Chatters
      (callAfter steps (host.record (.invoking entry.name)) inst entry.func).state.host :=
    Run.advance_chatters steps ⟨_, .ofCall inst entry.func⟩
  rw [HostM.Stops, outcome_invoke] at stops
  generalize callAfter steps (host.record (.invoking entry.name)) inst entry.func = progress
    at stops chatters
  rcases progress with run | ⟨run, results | abort | _⟩
  · simp at stops
  · simp at stops
  · simp only [Prod.mk.injEq, Except.error.injEq, Stop.failed.injEq] at stops
    rcases stops with ⟨rfl, rfl⟩
    rcases chatters with ⟨events, chatter, logs⟩
    refine ⟨_, abort, events, rfl, chatter, ?_⟩
    have logged : run.host.events.toList
        = host.events.toList ++ [.invoking entry.name] ++ events := by
      simpa [Host.record, Progress.state] using logs.events
    simp [Host.record, logged]
  · simp at stops

theorem exists_chatter_of_invoke_yields {entry : Entry} {completion : Completion}
    (yields : (invoke steps inst entry).Yields host completion after) :
    ∃ results events, results.length = entry.func.type.results.length ∧
      Chatter host.limiter.limits events ∧
      after.events.toList = host.events.toList ++ .invoking entry.name :: events
        ++ if entry.func.type.results = [] then [] else [.resultsIgnored entry.name results] := by
  have chatters : (host.record (.invoking entry.name)).Chatters
      (callAfter steps (host.record (.invoking entry.name)) inst entry.func).state.host :=
    Run.advance_chatters steps ⟨_, .ofCall inst entry.func⟩
  rcases invoke_yields yields with ⟨run, results, ended, _⟩
  rw [HostM.Yields, outcome_invoke, ended] at yields
  rw [ended] at chatters
  simp only [Prod.mk.injEq, Except.ok.injEq] at yields
  rcases yields with ⟨_, rfl⟩
  rcases chatters with ⟨events, chatter, logs⟩
  have length : (overwrite entry.places results).length = entry.func.type.results.length :=
    (length_overwrite _ _).trans entry.length_places
  refine ⟨overwrite entry.places results, events, length, chatter, ?_⟩
  have logged : run.host.events.toList
      = host.events.toList ++ [.invoking entry.name] ++ events := by
    simpa [Host.record, Progress.state] using logs.events
  simp only [entry.isEmpty_overwrite, List.isEmpty_iff]
  by_cases declaresNone : entry.func.type.results = []
  · rw [if_pos declaresNone, if_pos declaresNone, logged]
    simp
  · rw [if_neg declaresNone, if_neg declaresNone]
    simp [Host.record, logged]

end Stretches

section Runs

variable [Engine] [Sink σ] {steps : Nat} {config : Config} {files : Files} {path : String}
  {first after : Host σ}

theorem exists_trace_of_stops {error : Error}
    (stops : (run steps files path config).Stops first (.failed error) after) :
    ∃ trace, after.events.toList = first.events.toList ++ trace ∧
      Trace steps config files path first (.error error) trace := by
  rcases run_stops_iff_stages.mp stops with ⟨_, unread, same, rfl⟩ | ⟨bytes, readable, stops⟩
  · cases same
    exact ⟨_, (Host.Logs.record first (.artifactOpening path)).events, .unread unread⟩
  rcases stops with stops | ⟨inst, host, instantiated, stops⟩
  · cases loaded : Module.load? bytes with
    | none =>
        have same := stops
        simp only [instantiate, loaded] at same
        cases same
        refine ⟨_, ?_, .invalid readable loaded stops⟩
        simp [Host.loading, Host.record, loadEvents]
    | some m =>
        by_cases allGood : ∀ item ∈ m.imports, item.IsPutn
        · rcases exists_chatter_of_instantiate_stops loaded allGood stops with
            ⟨fault, events, rfl, chatter, logged⟩
          refine ⟨_, ?_, .refused ⟨readable, loaded, allGood⟩ chatter stops⟩
          rw [logged, Host.events_loading]
          simp [linkEvents, loadEvents]
        · have listed : ∃ item ∈ m.imports.toList, ¬item.IsPutn := by simpa using allGood
          rcases exists_importRefusal listed
            ((first.loading path bytes.size).compiling config.limits bytes.size) with
            ⟨stop, host, refusal, refused⟩
          have refusedToo :=
            instantiate_stops_of_checkImports loaded steps config.limits _ refused
          cases refusedToo.symm.trans stops
          generalize stop_eq : Stop.failed error = stop at refusal
          rcases refusal with ⟨parts, good, other, misfit⟩
          cases stop_eq
          refine ⟨_, ?_, .badImport readable loaded parts good other misfit stops⟩
          rw [Host.events_resolving, Host.events_loading]
          simp [loadEvents]
  · rcases good_of_instantiate instantiated with ⟨loaded, allGood⟩
    have linkable : Linkable files path bytes inst.module.toModule := ⟨readable, loaded, allGood⟩
    rcases exists_chatter_of_instantiate_yields loaded allGood instantiated with
      ⟨limits, events, chatter, logged⟩
    rw [Host.events_loading] at logged
    rcases stops with stops | ⟨entry, resolved, resolves, stops⟩
    · rcases resolveEntry_stops stops with ⟨_, absent, rfl⟩
      refine ⟨_, ?_, .noEntry linkable chatter instantiated ?_ stops⟩
      · rw [logged]
        simp [linkEvents, loadEvents]
      · intro type enters
        rcases (LinkedModule.enters_iff loaded).mp enters with ⟨func, isEntry, _⟩
        exact absent func isEntry
    · rcases exists_chatter_of_invoke_stops stops with
        ⟨place, abort, more, rfl, moreChatter, moreLogged⟩
      rcases resolveEntry_yields resolves with ⟨name, isEntry, rfl⟩
      have enters := (LinkedModule.enters_iff loaded).mpr ⟨entry.func, isEntry, rfl⟩
      have moreLimits : Chatter config.limits more := limits ▸ moreChatter
      rw [name] at stops moreLogged ⊢
      refine ⟨_, ?_, .trapped linkable chatter instantiated enters resolves moreLimits stops⟩
      rw [moreLogged, (Host.Logs.record host _).events, logged]
      simp [linkEvents, loadEvents]

theorem run_yields_iff {completion : Completion} :
    (run steps files path config).Yields first completion after ↔
      ∃ bytes inst host entry resolved, files.read path = .ok bytes ∧
        (instantiate steps config.limits bytes).Yields (first.loading path bytes.size) inst host ∧
        (resolveEntry config.entryPoint inst).Yields host entry resolved ∧
        (invoke steps inst entry).Yields resolved completion after := by
  simp only [run, HostM.bind_yields_iff]
  constructor
  · rintro ⟨artifact, loading, loads, inst, host, instantiated, entry, resolved, resolves,
      completes⟩
    rcases loadArtifact_yields loads with ⟨readable, rfl⟩
    exact ⟨artifact.bytes, inst, host, entry, resolved, readable, instantiated, resolves, completes⟩
  · rintro ⟨bytes, inst, host, entry, resolved, readable, instantiated, resolves, completes⟩
    exact ⟨⟨bytes⟩, _, loadArtifact_yields_of_readable readable first, inst, host, instantiated,
      entry, resolved, resolves, completes⟩

theorem exists_trace_of_yields {completion : Completion}
    (yields : (run steps files path config).Yields first completion after) :
    ∃ trace, after.events.toList = first.events.toList ++ trace ∧
      Trace steps config files path first (.ok completion) trace := by
  rcases run_yields_iff.mp yields with
    ⟨bytes, inst, host, entry, resolved, readable, instantiated, resolves, completes⟩
  rcases good_of_instantiate instantiated with ⟨loaded, allGood⟩
  rcases exists_chatter_of_instantiate_yields loaded allGood instantiated with
    ⟨limits, events, chatter, logged⟩
  rw [Host.events_loading] at logged
  rcases resolveEntry_yields resolves with ⟨name, isEntry, rfl⟩
  rcases exists_chatter_of_invoke_yields completes with
    ⟨results, more, length, moreChatter, moreLogged⟩
  have enters := (LinkedModule.enters_iff loaded).mpr ⟨entry.func, isEntry, rfl⟩
  have moreLimits : Chatter config.limits more := limits ▸ moreChatter
  rw [name] at moreLogged
  refine ⟨_, ?_, .returned ⟨readable, loaded, allGood⟩ chatter instantiated enters resolves
    moreLimits completes length⟩
  rw [moreLogged, (Host.Logs.record host _).events, logged]
  simp [linkEvents, loadEvents]

theorem exists_trace {result : Except Error Completion}
    (ends : (run steps files path config).outcome first = (result.mapError .failed, after)) :
    ∃ trace, after.events.toList = first.events.toList ++ trace ∧
      Trace steps config files path first result trace := by
  cases result with
  | ok completion => exact exists_trace_of_yields ends
  | error error => exact exists_trace_of_stops ends

end Runs

/-- What a trace tells that ends with an event of this kind, if it tells anything: the stage in
which the run has failed, or that it has not failed. -/
def Event.verdict? : Event → Option (Option Stage)
  | artifactLoaded _ _ => some (some .link)
  | instantiated _ _ _ => some (some .resolve)
  | invoking _ => some none
  | trapped _ _ => some (some .invoke)
  | _ => none

/-- The stage in which a run has failed, read off its trace. -/
def failedStage? (trace : List Event) : Option Stage :=
  (trace.filterMap Event.verdict?).getLast?.getD (some .load)

/-- The stage in which a run has failed, by its result. -/
def resultStage? : Except Error Completion → Option Stage
  | .ok _ => none
  | .error error => some error.stage

/-- That a growth has failed is logged directly after its approval, and nowhere else. -/
def FollowsApproval (events : List Event) : Prop :=
  ∀ before reason rest, events = before ++ .growthFailed reason :: rest →
    ∃ earlier current desired, before = earlier ++ [.growing current desired]

namespace FollowsApproval

variable {events more : List Event}

theorem of_not_mem (absent : ∀ reason, .growthFailed reason ∉ events) : FollowsApproval events := by
  rintro before reason rest rfl
  exact absurd (by simp) (absent reason)

theorem append (first : FollowsApproval events) (second : FollowsApproval more) :
    FollowsApproval (events ++ more) := by
  intro before reason rest whole
  rcases List.append_eq_append_iff.mp whole with ⟨part, rfl, parts⟩ | ⟨part, rfl, parts⟩
  · rcases second part reason rest parts with ⟨earlier, current, desired, rfl⟩
    exact ⟨events ++ earlier, current, desired, by simp⟩
  · cases part with
    | nil =>
        rcases second [] reason rest parts.symm with ⟨earlier, current, desired, same⟩
        simp at same
    | cons event part =>
        cases parts
        exact first before reason part rfl

end FollowsApproval

namespace Chatter

variable {limits : ResourceLimits} {events : List Event}

theorem verdicts (chatter : Chatter limits events) : events.filterMap Event.verdict? = [] := by
  induction chatter <;> simp_all [Event.verdict?]

theorem followsApproval (chatter : Chatter limits events) : FollowsApproval events := by
  have single : ∀ {event : Event} {rest : List Event}, (∀ reason, event ≠ .growthFailed reason) →
      FollowsApproval rest → FollowsApproval (event :: rest) := by
    intro event rest other follows
    have one : FollowsApproval [event] :=
      .of_not_mem (by simpa using fun reason => (other reason).symm)
    exact one.append follows
  induction chatter with
  | nil => exact .of_not_mem (by simp)
  | putn value _ ih => exact single (by simp) ih
  | overMaximum current desired maximum _ ih => exact single (by simp) ih
  | overCeiling current desired configured _ ih => exact single (by simp) ih
  | growing current desired _ ih => exact single (by simp) ih
  | growthFailed current desired reason _ ih =>
      rintro (_ | ⟨event, _ | ⟨next, before⟩⟩) other rest parts
      · simp at parts
      · cases parts
        exact ⟨[], current, desired, rfl⟩
      · cases parts
        rcases ih before other rest rfl with ⟨earlier, now, wanted, rfl⟩
        exact ⟨_ :: _ :: earlier, now, wanted, rfl⟩

end Chatter

section Grammar

theorem importEvents_verdicts (items : List Import) :
    (importEvents items).filterMap Event.verdict? = [] := by
  simp [importEvents, Event.verdict?]

theorem linkEvents_verdicts (path : String) (size : Nat) (m : Module) :
    (linkEvents path size m).filterMap Event.verdict? = [some .link] := by
  simp [linkEvents, loadEvents, importEvents_verdicts, List.filterMap_cons, Event.verdict?]

theorem failedStage?_of_verdicts {trace : List Event} (verdicts : List (Option Stage))
    (same : trace.filterMap Event.verdict? = verdicts) :
    failedStage? trace = verdicts.getLast?.getD (some .load) := by
  rw [failedStage?, same]

variable [Engine] [Sink σ] {steps : Nat} {config : Config} {files : Files} {path : String}
  {first : Host σ} {result : Except Error Completion} {trace : List Event}

/-- The trace tells the stage of the result. -/
theorem Trace.failedStage?_eq (traced : Trace steps config files path first result trace) :
    failedStage? trace = resultStage? result := by
  cases traced with
  | unread unread =>
      rw [resultStage?, Files.stage_of_read unread]
      rfl
  | invalid readable invalid stops => rfl
  | badImport readable loaded parts allGood other misfit stops =>
      apply failedStage?_of_verdicts [some .link]
      simp [loadEvents, importEvents_verdicts, List.filterMap_cons, Event.verdict?]
  | refused linkable chatter stops =>
      apply failedStage?_of_verdicts [some .link]
      simp [linkEvents_verdicts, chatter.verdicts]
  | noEntry linkable chatter instantiated absent stops =>
      rw [resultStage?, resolveEntry_stage stops]
      apply failedStage?_of_verdicts [some .link, some .resolve]
      simp [linkEvents_verdicts, chatter.verdicts, Host.instantiatedEvent, Event.verdict?]
  | trapped linkable chatter instantiated enters resolves moreChatter stops =>
      apply failedStage?_of_verdicts [some .link, some .resolve, none, some .invoke]
      simp [linkEvents_verdicts, chatter.verdicts, moreChatter.verdicts, Host.instantiatedEvent,
        List.filterMap_cons, Event.verdict?]
  | returned linkable chatter instantiated enters resolves moreChatter completes length =>
      apply failedStage?_of_verdicts [some .link, some .resolve, none]
      split <;> simp [linkEvents_verdicts, chatter.verdicts, moreChatter.verdicts,
        Host.instantiatedEvent, List.filterMap_cons, Event.verdict?]

theorem Trace.followsApproval (traced : Trace steps config files path first result trace) :
    FollowsApproval trace := by
  have imports : ∀ items, FollowsApproval (importEvents items) := by
    intro items
    apply FollowsApproval.of_not_mem
    simp [importEvents]
  have loads : ∀ path size, FollowsApproval (loadEvents path size) := by
    intro path size
    apply FollowsApproval.of_not_mem
    simp [loadEvents]
  have links : ∀ path size m, FollowsApproval (linkEvents path size m) :=
    fun path size m => (loads path size).append (imports m.imports.toList)
  have instantiated : ∀ (host : Host σ) m, FollowsApproval [host.instantiatedEvent m] := by
    intro host m
    apply FollowsApproval.of_not_mem
    simp [Host.instantiatedEvent]
  have invoking : ∀ name type, FollowsApproval [.entryResolved name type, .invoking name] := by
    intro name type
    apply FollowsApproval.of_not_mem
    simp
  cases traced with
  | unread unread => exact .of_not_mem (by simp)
  | invalid readable invalid stops => exact loads _ _
  | badImport readable loaded parts allGood other misfit stops =>
      exact (loads _ _).append (imports _)
  | refused linkable chatter stops => exact (links _ _ _).append chatter.followsApproval
  | noEntry linkable chatter _ absent stops =>
      exact ((links _ _ _).append chatter.followsApproval).append (instantiated _ _)
  | trapped linkable chatter _ enters resolves moreChatter stops =>
      refine .append (.append (.append (.append ?_ (instantiated _ _)) (invoking _ _))
        moreChatter.followsApproval) (.of_not_mem (by simp))
      exact (links _ _ _).append chatter.followsApproval
  | returned linkable chatter _ enters resolves moreChatter completes length =>
      refine .append (.append (.append (.append ?_ (instantiated _ _)) (invoking _ _))
        moreChatter.followsApproval) ?_
      · exact (links _ _ _).append chatter.followsApproval
      · split <;> exact .of_not_mem (by simp)

end Grammar

/-- A run that ends, in whichever way, leaves a trace that the stages have written in order, and
that stops with the stage that failed. It tells which stage that is. That a growth has failed is
logged only directly after its approval. -/
theorem run_leaves_trace [Engine] [Sink σ] (steps : Nat) (config : Config) (files : Files)
    (path : String) (first : Host σ) (result : Except Error Completion) (after : Host σ)
    (ends : (run steps files path config).outcome first = (result.mapError .failed, after)) :
    ∃ trace, after.events.toList = first.events.toList ++ trace ∧
      Trace steps config files path first result trace ∧ FollowsApproval trace ∧
      failedStage? trace = resultStage? result := by
  rcases exists_trace ends with ⟨trace, logged, traced⟩
  exact ⟨trace, logged, traced, traced.followsApproval, traced.failedStage?_eq⟩

section

open PlainEngine

/-- The growing module completes, although one of its growths is denied, and the module with mixed
imports fails when it is linked. -/
theorem growingModule_leaves_trace :
    (∃ completion, ∃ after : Host Recorder, ∃ trace,
        (run 30 (fun _ => .ok (.ok growingModule)) "m" fourPages).Yields { sink := {} } completion
          after ∧
        after.events.toList = trace ∧
        Trace 30 fourPages (fun _ => .ok (.ok growingModule)) "m" { sink := ({} : Recorder) }
          (.ok completion) trace ∧ failedStage? trace = none) ∧
      ∃ error, ∃ after : Host Recorder, ∃ trace,
        (run 30 (fun _ => .ok (.ok mixedImports)) "m" fourPages).Stops { sink := {} }
          (.failed error) after ∧
        after.events.toList = trace ∧ failedStage? trace = some error.stage := by
  have completes : (run 30 (fun _ => .ok (.ok growingModule)) "m" fourPages).succeedsWith
      { sink := ({} : Recorder) } (fun _ _ => true) = true := by
    decide +kernel
  have mixed : (Module.load? mixedImports).any
      (fun m => decide (∃ item ∈ m.imports.toList, ¬item.IsPutn)) = true := by
    decide +kernel
  refine ⟨?_, ?_⟩
  · rcases HostM.exists_of_succeedsWith completes with ⟨completion, after, yields, _⟩
    rcases run_leaves_trace 30 fourPages (fun _ => .ok (.ok growingModule)) "m"
      { sink := ({} : Recorder) } (.ok completion) after yields with
      ⟨trace, logged, traced, _, stage⟩
    exact ⟨completion, after, trace, yields, logged, traced, stage⟩
  · rcases (Option.any_eq_true _ _).mp mixed with ⟨m, loaded, bad⟩
    have listed : ∃ item ∈ m.imports.toList, ¬item.IsPutn := by simpa using bad
    rcases exists_importRefusal listed ((Host.loading { sink := ({} : Recorder) } "m"
      mixedImports.size).compiling fourPages.limits mixedImports.size) with
      ⟨_, _, ⟨_, _, _, _⟩, refused⟩
    have stops : (run 30 (fun _ => .ok (.ok mixedImports)) "m" fourPages).Stops
        { sink := ({} : Recorder) } _ _ :=
      run_stops_iff.mpr ⟨.imports, .imports rfl loaded refused⟩
    rcases run_leaves_trace 30 fourPages (fun _ => .ok (.ok mixedImports)) "m"
      { sink := ({} : Recorder) } (.error _) _ stops with ⟨trace, logged, _, _, stage⟩
    exact ⟨_, _, trace, stops, logged, stage⟩

end

end WasmHost
