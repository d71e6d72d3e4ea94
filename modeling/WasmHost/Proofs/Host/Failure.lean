import Mathlib
import WasmHost.Proofs.Host.Linking
import WasmHost.Proofs.Host.Overflow
import WasmHost.Proofs.Host.Transcript

/-!
# Where a run stops

A run passes through twelve phases, and it stops in at most one of them. `StopsAt` names the phase
by the functions that the run is made of, applied to what the phases before it have made, and
`run_stops_iff` proves that nothing is left out. The phases are finer than the stages that errors
report: most of them belong to linking. That imports are bound is no phase of its own, because it
does not fail once they have been checked.

Only two phases execute code, the start function and the entry point. So a run that stops in another
phase has not touched the sink since, which is not to say that it has printed nothing: the start
function has returned before the entry point is looked up.
-/

namespace WasmHost

open Instantiation

variable {σ : Type}

/-- The phases of a run, in order. -/
inductive Phase
  | load
  | decoding
  | imports
  | counts
  | memories
  | tables
  | globals
  | elements
  | data
  | start
  | resolve
  | invoke
  deriving DecidableEq, Repr

namespace Phase

/-- The stage that an error of the phase reports. -/
def stage : Phase → Stage
  | load => .load
  | resolve => .resolve
  | invoke => .invoke
  | _ => .link

/-- Whether the phase comes before all code of the module. -/
def isBeforeCode : Phase → Bool
  | start => false
  | resolve => false
  | invoke => false
  | _ => true

end Phase

/-- The artifact has been read and decoded, and the module admitted, with the given host. -/
structure Admits [Engine] (config : Config) (files : Files) (path : String) (first : Host σ)
    (bytes : ByteArray) (m : Module) (linked : LinkedModule) (admitted : Host σ) : Prop where
  readable : files.read path = .ok bytes
  loaded : Module.load? bytes = some m
  admits : (admission config.limits bytes.size m).Yields (first.loading path bytes.size) linked
    admitted

/-- The run of an artifact stops in this phase, for this reason and with this host. -/
inductive StopsAt [Engine] [Sink σ] (steps : Nat) (config : Config) (files : Files)
    (path : String) (first : Host σ) : Phase → Stop → Host σ → Prop
  | load {error : Error} (unread : files.read path = .error error) :
      StopsAt steps config files path first .load (.failed error)
        (first.record (.artifactOpening path))
  | decoding {bytes : ByteArray} (readable : files.read path = .ok bytes)
      (invalid : Module.load? bytes = none) :
      StopsAt steps config files path first .decoding
        (.failed (.rejected (.failed (.refused (.invalid bytes)))))
        ((first.loading path bytes.size).compiling config.limits bytes.size)
  | imports {bytes : ByteArray} {m : Module} {stop : Stop} {after : Host σ}
      (readable : files.read path = .ok bytes) (loaded : Module.load? bytes = some m)
      (stops : (checkImports m.imports.toList).Stops
        ((first.loading path bytes.size).compiling config.limits bytes.size) stop after) :
      StopsAt steps config files path first .imports stop after
  | counts {bytes : ByteArray} {m : Module} {checked : Host σ} {stop : Stop} {after : Host σ}
      (readable : files.read path = .ok bytes) (loaded : Module.load? bytes = some m)
      (checks : (checkImports m.imports.toList).Yields
        ((first.loading path bytes.size).compiling config.limits bytes.size) () checked)
      (stops : (checkCounts m config.limits).Stops checked stop after) :
      StopsAt steps config files path first .counts stop after
  | memories {bytes : ByteArray} {m : Module} {linked : LinkedModule} {admitted : Host σ}
      {stop : Stop} {after : Host σ}
      (ready : Admits config files path first bytes m linked admitted)
      (stops : (makeMemories m m.memories.toList).Stops admitted stop after) :
      StopsAt steps config files path first .memories stop after
  | tables {bytes : ByteArray} {m : Module} {linked : LinkedModule} {admitted host : Host σ}
      {store : Store} {stop : Stop} {after : Host σ}
      (ready : Admits config files path first bytes m linked admitted)
      (made : (makeMemories m m.memories.toList).Yields admitted store host)
      (stops : (m.tables.toList.mapM makeTable).Stops host stop after) :
      StopsAt steps config files path first .tables stop after
  | globals {bytes : ByteArray} {m : Module} {linked : LinkedModule} {admitted host : Host σ}
      {store : Store} {stop : Stop} {after : Host σ}
      (ready : Admits config files path first bytes m linked admitted)
      (made : (makeTables m m.tables.toList).Yields admitted store host)
      (stops : (makeGlobals m.globals.toList #[]).Stops host stop after) :
      StopsAt steps config files path first .globals stop after
  | elements {bytes : ByteArray} {m : Module} {linked : LinkedModule}
      {admitted host later : Host σ} {store : Store} {globals : Array Value} {stop : Stop}
      {after : Host σ} (ready : Admits config files path first bytes m linked admitted)
      (made : (makeTables m m.tables.toList).Yields admitted store host)
      (computed : (makeGlobals m.globals.toList #[]).Yields host globals later)
      (stops : (copyElems m.elems.toList { store with globals }).Stops later stop after) :
      StopsAt steps config files path first .elements stop after
  | data {bytes : ByteArray} {m : Module} {linked : LinkedModule} {admitted host : Host σ}
      {store : Store} {stop : Stop} {after : Host σ}
      (ready : Admits config files path first bytes m linked admitted)
      (filled : (fillTables m m.elems.toList).Yields admitted store host)
      (stops : (copyDatas m.datas.toList store).Stops host stop after) :
      StopsAt steps config files path first .data stop after
  | start {bytes : ByteArray} {m : Module} {linked : LinkedModule} {admitted host : Host σ}
      {store : Store} {stop : Stop} {after : Host σ}
      (ready : Admits config files path first bytes m linked admitted)
      (made : (makeStore m).Yields admitted store host)
      (stops : (start steps ⟨linked, store⟩).Stops host stop after) :
      StopsAt steps config files path first .start stop after
  | resolve {bytes : ByteArray} {inst : Instance} {host : Host σ} {stop : Stop} {after : Host σ}
      (readable : files.read path = .ok bytes)
      (instantiated : (instantiate steps config.limits bytes).Yields (first.loading path bytes.size)
        inst host)
      (stops : (resolveEntry config.entryPoint inst).Stops host stop after) :
      StopsAt steps config files path first .resolve stop after
  | invoke {bytes : ByteArray} {inst : Instance} {host resolved : Host σ} {entry : Entry}
      {stop : Stop} {after : Host σ} (readable : files.read path = .ok bytes)
      (instantiated : (instantiate steps config.limits bytes).Yields (first.loading path bytes.size)
        inst host)
      (resolves : (resolveEntry config.entryPoint inst).Yields host entry resolved)
      (stops : (invoke steps inst entry).Stops resolved stop after) :
      StopsAt steps config files path first .invoke stop after

section Loading

variable {files : Files} {path : String} {host after : Host σ} {stop : Stop}

theorem loadArtifact_stops_iff :
    (loadArtifact files path).Stops host stop after ↔
      ∃ error, files.read path = .error error ∧ stop = .failed error ∧
        after = host.record (.artifactOpening path) := by
  simp only [loadArtifact, HostM.Stops, HostM.outcome_bind, HostM.outcome_record]
  cases content : files.read path with
  | error error =>
      simp only [HostM.outcome_fail, Prod.mk.injEq, Except.error.injEq, exists_eq_left', eq_comm]
  | ok bytes =>
      simp only [HostM.outcome_bind, HostM.outcome_record, HostM.outcome_pure, Prod.mk.injEq,
        reduceCtorEq, false_and, exists_false]

theorem loadArtifact_yields_of_readable {bytes : ByteArray}
    (readable : files.read path = .ok bytes) (host : Host σ) :
    (loadArtifact files path).Yields host ⟨bytes⟩ (host.loading path bytes.size) := by
  simp only [loadArtifact, readable]
  rfl

/-- What makes an artifact unreadable is an error of the first stage. -/
theorem Files.stage_of_read {error : Error} (unread : files.read path = .error error) :
    error.stage = .load := by
  simp only [read] at unread
  split at unread
  · simp only [Except.error.injEq] at unread
    subst unread
    simp only [Artifact.openError]
    split <;> rfl
  · simp only [Except.error.injEq] at unread
    subst unread
    rfl
  · simp at unread

end Loading

section Classification

variable [Engine] {m : Module} {host after : Host σ} {stop : Stop}

/-- Making a store stops at its memories, its tables, its globals or one of its segments. -/
theorem makeStore_stops_iff :
    (makeStore m).Stops host stop after ↔
      (makeMemories m m.memories.toList).Stops host stop after ∨
      (∃ store middle, (makeMemories m m.memories.toList).Yields host store middle ∧
        (m.tables.toList.mapM makeTable).Stops middle stop after) ∨
      (∃ store middle, (makeTables m m.tables.toList).Yields host store middle ∧
        (makeGlobals m.globals.toList #[]).Stops middle stop after) ∨
      (∃ store middle globals later, (makeTables m m.tables.toList).Yields host store middle ∧
        (makeGlobals m.globals.toList #[]).Yields middle globals later ∧
        (copyElems m.elems.toList { store with globals }).Stops later stop after) ∨
      ∃ store middle, (fillTables m m.elems.toList).Yields host store middle ∧
        (copyDatas m.datas.toList store).Stops middle stop after := by
  have tables : (makeTables m m.tables.toList).Stops host stop after ↔
      (makeMemories m m.memories.toList).Stops host stop after ∨
      ∃ store middle, (makeMemories m m.memories.toList).Yields host store middle ∧
        (m.tables.toList.mapM makeTable).Stops middle stop after := by
    rw [makeTables, HostM.bind_stops_iff]
    apply or_congr_right
    apply exists₂_congr
    intro store middle
    apply and_congr_right
    intro _
    rw [HostM.bind_stops_iff]
    simp [HostM.Stops]
  have elements : (fillTables m m.elems.toList).Stops host stop after ↔
      (makeTables m m.tables.toList).Stops host stop after ∨
      (∃ store middle, (makeTables m m.tables.toList).Yields host store middle ∧
        (makeGlobals m.globals.toList #[]).Stops middle stop after) ∨
      ∃ store middle globals later, (makeTables m m.tables.toList).Yields host store middle ∧
        (makeGlobals m.globals.toList #[]).Yields middle globals later ∧
        (copyElems m.elems.toList { store with globals }).Stops later stop after := by
    rw [fillTables, HostM.bind_stops_iff]
    apply or_congr_right
    constructor
    · rintro ⟨store, middle, made, stops⟩
      rcases HostM.bind_stops_iff.mp stops with stops | ⟨globals, later, computed, stops⟩
      · exact .inl ⟨store, middle, made, stops⟩
      · exact .inr ⟨store, middle, globals, later, made, computed, stops⟩
    · rintro (⟨store, middle, made, stops⟩ | ⟨store, middle, globals, later, made, computed, stops⟩)
      · exact ⟨store, middle, made, HostM.bind_stops_iff.mpr (.inl stops)⟩
      · exact ⟨store, middle, made,
          HostM.bind_stops_iff.mpr (.inr ⟨globals, later, computed, stops⟩)⟩
  rw [makeStore_eq, fillMemories, HostM.bind_stops_iff, elements, tables, or_assoc, or_assoc,
    or_assoc]

theorem outcome_admission (limits : ResourceLimits) (size : Nat) (m : Module) (host : Host σ) :
    (admission limits size m).outcome host = (do
      checkImports m.imports.toList
      let linker ← addToLinker {}
      let linked ← link linker m
      checkCounts m limits
      pure linked : HostM σ LinkedModule).outcome (host.compiling limits size) :=
  rfl

/-- A module that passes the import check is linked, so its counts are checked next. -/
theorem exists_outcome_admission {limits : ResourceLimits} {size : Nat} {checked : Host σ}
    (checks : (checkImports m.imports.toList).Yields (host.compiling limits size) () checked) :
    ∃ linked, Linker.offering.link m = .ok linked ∧ (admission limits size m).outcome host
      = (do checkCounts m limits; pure linked : HostM σ LinkedModule).outcome checked := by
  have allGood : ∀ item ∈ m.imports, item.IsPutn := by
    simpa using (checkImports_yields_iff.mp checks).1
  rcases Linker.link_offering_iff.mpr allGood with ⟨linked, links⟩
  have defined : (addToLinker {}).Yields checked Linker.offering checked :=
    Linker.outcome_addToLinker checked
  refine ⟨linked, links, ?_⟩
  rw [outcome_admission, checks.outcome_bind, defined.outcome_bind]
  simp only [Instantiation.link, links, pure_bind]

theorem admission_stops_iff {limits : ResourceLimits} {size : Nat} :
    (admission limits size m).Stops host stop after ↔
      (checkImports m.imports.toList).Stops (host.compiling limits size) stop after ∨
      ∃ checked, (checkImports m.imports.toList).Yields (host.compiling limits size) () checked ∧
        (checkCounts m limits).Stops checked stop after := by
  rcases checks : (checkImports m.imports.toList).outcome (host.compiling limits size) with
    ⟨early | _, checked⟩
  · have refused : (admission limits size m).outcome host = (.error early, checked) := by
      rw [outcome_admission, HostM.outcome_bind, checks]
    simp [HostM.Stops, HostM.Yields, refused, checks]
  · rcases exists_outcome_admission checks with ⟨linked, _, outcome⟩
    have counted : (admission limits size m).Stops host stop after ↔
        (checkCounts m limits).Stops checked stop after := by
      rw [HostM.Stops, outcome]
      refine HostM.bind_stops_iff.trans ?_
      simp [HostM.Stops]
    rw [counted]
    simp [HostM.Stops, HostM.Yields, checks]

theorem instantiate_stops_iff [Sink σ] {steps : Nat} {limits : ResourceLimits} {bytes : ByteArray}
    (loaded : Module.load? bytes = some m) :
    (instantiate steps limits bytes).Stops host stop after ↔
      (admission limits bytes.size m).Stops host stop after ∨
      ∃ linked admitted, (admission limits bytes.size m).Yields host linked admitted ∧
        ((makeStore m).Stops admitted stop after ∨
          ∃ store ready, (makeStore m).Yields admitted store ready ∧
            (start steps ⟨linked, store⟩).Stops ready stop after) := by
  rw [instantiate_eq steps limits loaded, HostM.bind_stops_iff]
  apply or_congr_right
  apply exists₂_congr
  intro linked admitted
  apply and_congr_right
  intro _
  constructor
  · intro stops
    rcases HostM.bind_stops_iff.mp stops with stops | ⟨store, ready, made, stops⟩
    · exact .inl stops
    · refine .inr ⟨store, ready, made, ?_⟩
      rcases HostM.bind_stops_iff.mp stops with stops | ⟨inst, started, _, stops⟩
      · exact stops
      · simp only [HostM.Stops, HostM.outcome_bind, HostM.outcome_get, HostM.outcome_record,
          HostM.outcome_pure, Prod.mk.injEq, reduceCtorEq, false_and] at stops
  · rintro (stops | ⟨store, ready, made, stops⟩)
    · exact stops.bind
    · exact HostM.bind_stops_iff.mpr (.inr ⟨store, ready, made, stops.bind⟩)

variable [Sink σ] {steps : Nat} {config : Config} {files : Files} {path : String}
  {first : Host σ}

theorem run_stops_iff_stages :
    (run steps files path config).Stops first stop after ↔
      (∃ error, files.read path = .error error ∧ stop = .failed error ∧
        after = first.record (.artifactOpening path)) ∨
      ∃ bytes, files.read path = .ok bytes ∧
        ((instantiate steps config.limits bytes).Stops (first.loading path bytes.size) stop after ∨
          ∃ inst host,
            (instantiate steps config.limits bytes).Yields (first.loading path bytes.size) inst
              host ∧
            ((resolveEntry config.entryPoint inst).Stops host stop after ∨
              ∃ entry resolved, (resolveEntry config.entryPoint inst).Yields host entry resolved ∧
                (invoke steps inst entry).Stops resolved stop after)) := by
  simp only [run, HostM.bind_stops_iff, loadArtifact_stops_iff]
  apply or_congr_right
  constructor
  · rintro ⟨artifact, loading, loads, stops⟩
    rcases loadArtifact_yields loads with ⟨readable, rfl⟩
    exact ⟨artifact.bytes, readable, stops⟩
  · rintro ⟨bytes, readable, stops⟩
    exact ⟨⟨bytes⟩, _, loadArtifact_yields_of_readable readable first, stops⟩

/-- A run stops in one of the phases, and whatever stops in a phase is the run. -/
theorem run_stops_iff :
    (run steps files path config).Stops first stop after ↔
      ∃ phase, StopsAt steps config files path first phase stop after := by
  rw [run_stops_iff_stages]
  constructor
  · rintro (⟨error, unread, rfl, rfl⟩ | ⟨bytes, readable, stops⟩)
    · exact ⟨.load, .load unread⟩
    rcases stops with stops | ⟨inst, host, instantiated, stops | ⟨entry, resolved, resolves, stops⟩⟩
    · cases loaded : Module.load? bytes with
      | none =>
          simp only [instantiate, loaded] at stops
          cases stops
          exact ⟨.decoding, .decoding readable loaded⟩
      | some m =>
          rcases (instantiate_stops_iff loaded).mp stops with
            stops | ⟨linked, admitted, admits, stops⟩
          · rcases admission_stops_iff.mp stops with stops | ⟨checked, checks, stops⟩
            · exact ⟨.imports, .imports readable loaded stops⟩
            · exact ⟨.counts, .counts readable loaded checks stops⟩
          rcases stops with stops | ⟨store, ready, made, stops⟩
          · rcases makeStore_stops_iff.mp stops with stops | ⟨store, host, made, stops⟩ |
              ⟨store, host, made, stops⟩ | ⟨store, host, globals, later, made, computed, stops⟩ |
              ⟨store, host, filled, stops⟩
            · exact ⟨.memories, .memories ⟨readable, loaded, admits⟩ stops⟩
            · exact ⟨.tables, .tables ⟨readable, loaded, admits⟩ made stops⟩
            · exact ⟨.globals, .globals ⟨readable, loaded, admits⟩ made stops⟩
            · exact ⟨.elements, .elements ⟨readable, loaded, admits⟩ made computed stops⟩
            · exact ⟨.data, .data ⟨readable, loaded, admits⟩ filled stops⟩
          · exact ⟨.start, .start ⟨readable, loaded, admits⟩ made stops⟩
    · exact ⟨.resolve, .resolve readable instantiated stops⟩
    · exact ⟨.invoke, .invoke readable instantiated resolves stops⟩
  · have ofAdmission : ∀ {bytes : ByteArray} {m : Module}, Module.load? bytes = some m →
        (admission config.limits bytes.size m).Stops (first.loading path bytes.size) stop after →
          (instantiate steps config.limits bytes).Stops (first.loading path bytes.size) stop
            after :=
      fun loaded stops => (instantiate_stops_iff loaded).mpr (.inl stops)
    have ofStore : ∀ {bytes : ByteArray} {m : Module} {linked : LinkedModule} {admitted : Host σ},
        Module.load? bytes = some m →
        (admission config.limits bytes.size m).Yields (first.loading path bytes.size) linked
          admitted →
        (makeStore m).Stops admitted stop after →
          (instantiate steps config.limits bytes).Stops (first.loading path bytes.size) stop
            after :=
      fun loaded admits stops =>
        (instantiate_stops_iff loaded).mpr (.inr ⟨_, _, admits, .inl stops⟩)
    rintro ⟨phase, stopsAt⟩
    cases stopsAt with
    | load unread => exact .inl ⟨_, unread, rfl, rfl⟩
    | decoding readable invalid =>
        refine .inr ⟨_, readable, .inl ?_⟩
        simp only [instantiate, invalid]
        rfl
    | imports readable loaded stops =>
        exact .inr ⟨_, readable, .inl (ofAdmission loaded (admission_stops_iff.mpr (.inl stops)))⟩
    | counts readable loaded checks stops =>
        have refused := admission_stops_iff.mpr (.inr ⟨_, checks, stops⟩)
        exact .inr ⟨_, readable, .inl (ofAdmission loaded refused)⟩
    | memories ready stops =>
        have stopsStore := makeStore_stops_iff.mpr (.inl stops)
        exact .inr ⟨_, ready.readable, .inl (ofStore ready.loaded ready.admits stopsStore)⟩
    | tables ready made stops =>
        have stopsStore := makeStore_stops_iff.mpr (.inr (.inl ⟨_, _, made, stops⟩))
        exact .inr ⟨_, ready.readable, .inl (ofStore ready.loaded ready.admits stopsStore)⟩
    | globals ready made stops =>
        have stopsStore := makeStore_stops_iff.mpr (.inr (.inr (.inl ⟨_, _, made, stops⟩)))
        exact .inr ⟨_, ready.readable, .inl (ofStore ready.loaded ready.admits stopsStore)⟩
    | elements ready made computed stops =>
        have stopsStore := makeStore_stops_iff.mpr
          (.inr (.inr (.inr (.inl ⟨_, _, _, _, made, computed, stops⟩))))
        exact .inr ⟨_, ready.readable, .inl (ofStore ready.loaded ready.admits stopsStore)⟩
    | data ready filled stops =>
        have stopsStore := makeStore_stops_iff.mpr
          (.inr (.inr (.inr (.inr ⟨_, _, filled, stops⟩))))
        exact .inr ⟨_, ready.readable, .inl (ofStore ready.loaded ready.admits stopsStore)⟩
    | start ready made stops =>
        have stopsStart := (instantiate_stops_iff ready.loaded).mpr
          (.inr ⟨_, _, ready.admits, .inr ⟨_, _, made, stops⟩⟩)
        exact .inr ⟨_, ready.readable, .inl stopsStart⟩
    | resolve readable instantiated stops =>
        exact .inr ⟨_, readable, .inr ⟨_, _, instantiated, .inl stops⟩⟩
    | invoke readable instantiated resolves stops =>
        exact .inr ⟨_, readable, .inr ⟨_, _, instantiated, .inr ⟨_, _, resolves, stops⟩⟩⟩

end Classification

section Errors

variable {host after : Host σ} {error : Error}

theorem HostM.OnlyRejects.stage [Engine] {α : Type} {x : HostM σ α} (rejects : x.OnlyRejects)
    (stops : x.Stops host (.failed error) after) : error.stage = .link := by
  rcases rejects host error after stops with ⟨fault, rfl⟩
  rfl

theorem checkImports_stage {items : List Import}
    (stops : (checkImports items).Stops host (.failed error) after) : error.stage = .link := by
  rcases good_or_exists_bad items with allGood | ⟨good, bad, rest, rfl, allGood, other⟩
  · rw [HostM.Stops, outcome_checkImports_of_good allGood] at stops
    simp at stops
  · rcases exists_outcome_checkImports_of_bad allGood other rest host with ⟨detail, _, refused⟩
    rw [HostM.Stops, refused] at stops
    simp only [Prod.mk.injEq, Except.error.injEq, Stop.failed.injEq] at stops
    rw [← stops.1]
    rfl

theorem resolveEntry_stage {name : String} {inst : Instance}
    (stops : (resolveEntry name inst).Stops host (.failed error) after) :
    error.stage = .resolve := by
  rcases resolveEntry_stops stops with ⟨⟨other, stage, same⟩, _, _⟩
  cases same
  exact stage

theorem invoke_stage [Engine] [Sink σ] {steps : Nat} {inst : Instance} {entry : Entry}
    (stops : (invoke steps inst entry).Stops host (.failed error) after) :
    error.stage = .invoke := by
  rw [HostM.Stops, outcome_invoke] at stops
  generalize callAfter steps (host.record (.invoking entry.name)) inst entry.func = progress
    at stops
  rcases progress with run | ⟨run, results | abort | _⟩
  · simp at stops
  · simp at stops
  · simp only [Prod.mk.injEq, Except.error.injEq, Stop.failed.injEq] at stops
    rw [← stops.1]
    rfl
  · simp at stops

variable [Engine] [Sink σ] {steps : Nat} {config : Config} {files : Files} {path : String}
  {first : Host σ} {phase : Phase}

/-- An error reports the stage that its phase belongs to. -/
theorem StopsAt.stage
    (stopsAt : StopsAt steps config files path first phase (.failed error) after) :
    error.stage = phase.stage := by
  have rejects : Sequential fun _ x => (x σ).OnlyRejects := HostM.OnlyRejects.sequential
  cases stopsAt with
  | load unread => exact Files.stage_of_read unread
  | decoding readable invalid => rfl
  | imports readable loaded stops => exact checkImports_stage stops
  | counts readable loaded checks stops => exact (rejects.checkCounts _ _).stage stops
  | memories ready stops =>
      exact (rejects.makeMemories onlyRejects_makeMemory _ _).stage stops
  | tables ready made stops => exact (rejects.mapM_makeTable onlyRejects_makeTable _).stage stops
  | globals ready made stops => exact (rejects.makeGlobals _ _).stage stops
  | elements ready made computed stops => exact (rejects.copyElems _ _).stage stops
  | data ready filled stops => exact (rejects.copyDatas _ _).stage stops
  | start ready made stops => exact (onlyRejects_start _ _).stage stops
  | resolve readable instantiated stops => exact resolveEntry_stage stops
  | invoke readable instantiated resolves stops => exact invoke_stage stops

end Errors

section Sinks

variable {host after : Host σ} {stop : Stop}

theorem Silent.sink_of_stops {α : Type} {x : (σ : Type) → HostM σ α} (silent : Silent x)
    (stops : (x σ).Stops host stop after) : after.sink = host.sink := by
  have kept := silent.sink_eq host
  rwa [stops] at kept

theorem Silent.sink_of_yields {α : Type} {x : (σ : Type) → HostM σ α} (silent : Silent x)
    {value : α} (yields : (x σ).Yields host value after) : after.sink = host.sink := by
  have kept := silent.sink_eq host
  rwa [yields] at kept

variable [Engine] {config : Config} {files : Files} {path : String} {first : Host σ}
  {phase : Phase}

theorem Admits.sink {bytes : ByteArray} {m : Module} {linked : LinkedModule}
    (ready : Admits config files path first bytes m linked host) : host.sink = first.sink :=
  (admission_yields ready.admits).sink

/-- A run that stops before all code leaves the sink as it was. -/
theorem StopsAt.sink [Sink σ] {steps : Nat}
    (stopsAt : StopsAt steps config files path first phase stop after)
    (before : phase.isBeforeCode = true) : after.sink = first.sink := by
  have silent : Sequential fun _ x => Silent x := Silent.compositional.sequential
  cases stopsAt with
  | load unread => rfl
  | decoding readable invalid => rfl
  | imports readable loaded stops =>
      have kept := (Silent.compositional.checkImports _).sink_of_stops stops
      exact kept
  | counts readable loaded checks stops =>
      have checked := (Silent.compositional.checkImports _).sink_of_yields checks
      exact ((silent.checkCounts _ _).sink_of_stops stops).trans checked
  | memories ready stops =>
      have kept := (silent.makeMemories silent_makeMemory _ _).sink_of_stops stops
      exact kept.trans ready.sink
  | tables ready made stops =>
      have memories := (silent.makeMemories silent_makeMemory _ _).sink_of_yields made
      have kept := (silent.mapM_makeTable silent_makeTable _).sink_of_stops stops
      exact (kept.trans memories).trans ready.sink
  | globals ready made stops =>
      have tables := (silent.makeTables silent_makeMemory silent_makeTable _ _).sink_of_yields made
      have kept := (silent.makeGlobals _ _).sink_of_stops stops
      exact (kept.trans tables).trans ready.sink
  | elements ready made computed stops =>
      have tables := (silent.makeTables silent_makeMemory silent_makeTable _ _).sink_of_yields made
      have globals := (silent.makeGlobals _ _).sink_of_yields computed
      have kept := (silent.copyElems _ _).sink_of_stops stops
      exact ((kept.trans globals).trans tables).trans ready.sink
  | data ready filled stops =>
      have tables :=
        (silent.fillTables silent_makeMemory silent_makeTable _ _).sink_of_yields filled
      have kept := (silent.copyDatas _ _).sink_of_stops stops
      exact (kept.trans tables).trans ready.sink
  | start ready made stops => simp [Phase.isBeforeCode] at before
  | resolve readable instantiated stops => simp [Phase.isBeforeCode] at before
  | invoke readable instantiated resolves stops => simp [Phase.isBeforeCode] at before

end Sinks

/-- A view of a sink that only gets longer when the sink is given a number does so when it is given
many. -/
theorem Sink.log_emitAll [Sink σ] {γ : Type} {log : σ → List γ}
    (grows : ∀ sink value, log sink <+: log (Sink.emit sink value).2) (sink : σ)
    (values : List Int32) : log sink <+: log (Sink.emitAll sink values) := by
  induction values generalizing sink with
  | nil => exact List.prefix_refl _
  | cons value rest ih => exact (grows sink value).trans (ih _)

section Runs

variable [Engine] {host after : Host σ} {bytes : ByteArray} {m : Module} {linked : LinkedModule}

theorem good_of_admission {limits : ResourceLimits} {size : Nat}
    (admits : (admission limits size m).Yields host linked after) :
    ∀ item ∈ m.imports, item.IsPutn := by
  rw [HostM.Yields, outcome_admission] at admits
  rcases HostM.bind_yields_iff.mp admits with ⟨_, checked, checks, _⟩
  intro item item_mem
  exact (checkImports_yields_iff.mp checks).1 item (by simpa using item_mem)

variable [Sink σ] {steps : Nat} {config : Config} {files : Files} {path : String} {first : Host σ}

theorem outcome_run_of_unread {error : Error} (unread : files.read path = .error error) :
    (run steps files path config).outcome first
      = (.error (.failed error), first.record (.artifactOpening path)) := by
  simp only [run, loadArtifact, unread, HostM.outcome_bind, HostM.outcome_record,
    HostM.outcome_fail]

theorem outcome_run_of_readable (readable : files.read path = .ok bytes) :
    (run steps files path config).outcome first
      = (runBytes steps config bytes).outcome (first.loading path bytes.size) := by
  have loads : (loadArtifact files path).outcome first = _ :=
    loadArtifact_yields_of_readable readable first
  rw [run_eq, HostM.outcome_bind, loads]

/-- After a run the sink has been given the numbers that the code has printed, and no others. -/
theorem sink_run_of_readable (readable : files.read path = .ok bytes) :
    ((run steps files path config).outcome first).2.sink
      = Sink.emitAll first.sink
          (runArguments steps config bytes (first.loading path bytes.size)) := by
  rw [outcome_run_of_readable readable]
  rcases tells_runBytes steps config bytes (first.loading path bytes.size) with ⟨_, told, _⟩
  exact told.sink

/-- Without a start function, instantiation leaves the sink as it was. -/
theorem instantiate_sink_of_no_start {inst : Instance} {limits : ResourceLimits}
    (loaded : Module.load? bytes = some m) (noStart : m.start = none)
    (instantiated : (instantiate steps limits bytes).Yields first inst host) :
    host.sink = first.sink := by
  rcases instantiate_yields_iff.mp instantiated with
    ⟨other, _, store, admitted, ready, started, loadedToo, admits, made, starts, rfl⟩
  have same : other = m := Option.some.inj (loadedToo.symm.trans loaded)
  subst same
  have kept : ready.sink = first.sink :=
    ((silent_makeStore other).sink_of_yields made).trans (admission_yields admits).sink
  rcases start_yields starts with ⟨func, _, _, named, _⟩ | ⟨_, rfl⟩
  · rw [← (admission_yields admits).module] at noStart
    simp [noStart] at named
  · exact kept

theorem start_not_stops_of_no_start {store : Store} {stop : Stop}
    (noStart : linked.start = none) : ¬(start steps ⟨linked, store⟩).Stops host stop after := by
  simp [start, noStart, HostM.Stops]

/-- The run of a module with a bad import is the same whatever the steps that its code is given. -/
theorem exists_run_stops_of_bad (config : Config) (first : Host σ)
    (readable : files.read path = .ok bytes) (loaded : Module.load? bytes = some m)
    (bad : ∃ item ∈ m.imports, ¬item.IsPutn) :
    ∃ stop after, ∀ steps, (run steps files path config).Stops first stop after := by
  have listed : ∃ item ∈ m.imports.toList, ¬item.IsPutn := by simpa using bad
  rcases exists_importRefusal listed
    ((first.loading path bytes.size).compiling config.limits bytes.size) with
    ⟨stop, after, _, refused⟩
  refine ⟨stop, after, ?_⟩
  intro steps
  exact run_stops_iff.mpr ⟨.imports, .imports readable loaded refused⟩

/-- An instance is one of the module in its artifact, which has good imports only. -/
theorem good_of_instantiate {limits : ResourceLimits} {inst : Instance}
    (instantiated : (instantiate steps limits bytes).Yields host inst after) :
    Module.load? bytes = some inst.module.toModule ∧ ∀ item ∈ inst.module.imports, item.IsPutn := by
  rcases instantiate_yields_iff.mp instantiated with
    ⟨other, linked, store, admitted, ready, started, loaded, admits, _, starts, _⟩
  have same : inst.module = linked := by
    rcases start_yields starts with ⟨_, _, _, _, _, rfl, _⟩ | ⟨rfl, _⟩ <;> rfl
  rw [same, (admission_yields admits).module]
  exact ⟨loaded, good_of_admission admits⟩

/-- The run of a module with a bad import calls no function of the module. -/
theorem not_calls_of_bad (loaded : Module.load? bytes = some m)
    (bad : ∃ item ∈ m.imports, ¬item.IsPutn) {inst : Instance} {func : Func} :
    ¬Calls config bytes first host inst func := by
  intro calls
  have good : ∃ other, Module.load? bytes = some other ∧ ∀ item ∈ other.imports, item.IsPutn := by
    cases calls with
    | start starts =>
        rcases starts with ⟨loadedToo, admits, _, _⟩
        exact ⟨_, loadedToo, good_of_admission admits⟩
    | entry instantiated _ => exact ⟨_, good_of_instantiate instantiated⟩
  rcases good with ⟨other, loadedToo, allGood⟩
  cases loaded.symm.trans loadedToo
  rcases bad with ⟨item, item_mem, misfit⟩
  exact misfit (allGood item item_mem)

end Runs

/-- What a run leaves behind. The sink has been given exactly the numbers that the code has printed,
however the run ended, so a view of the sink that only grows still begins as it did. A run stops in
one of its phases, and reports the stage of that phase. It leaves the sink as it was if the phase is
one before all code, that is loading, decoding, the checks of imports and counts, the making of
memories, tables and globals, and the copying of segments. A failed look-up of the entry point
leaves the sink, the calls and the limiter as instantiation did. Without a start function only a
failed entry point can leave a changed sink. A module with a bad import executes no instruction. -/
theorem failures_before_code_silent [Engine] [Sink σ] (steps : Nat) (config : Config)
    (files : Files) (path : String) (first : Host σ) :
    (∀ (γ : Type) (log : σ → List γ), (∀ sink value, log sink <+: log (Sink.emit sink value).2) →
        log first.sink <+: log ((run steps files path config).outcome first).2.sink) ∧
      (∀ bytes, files.read path = .ok bytes →
        ((run steps files path config).outcome first).2.sink
          = Sink.emitAll first.sink
              (runArguments steps config bytes (first.loading path bytes.size))) ∧
      (∀ stop after, (run steps files path config).Stops first stop after ↔
        ∃ phase, StopsAt steps config files path first phase stop after) ∧
      (∀ phase stop after, StopsAt steps config files path first phase stop after →
        (∀ error, stop = .failed error → error.stage = phase.stage) ∧
        (phase.isBeforeCode = true → after.sink = first.sink)) ∧
      (∀ bytes inst host stop after, files.read path = .ok bytes →
        (instantiate steps config.limits bytes).Yields (first.loading path bytes.size) inst host →
        (resolveEntry config.entryPoint inst).Stops host stop after →
          (run steps files path config).Stops first stop after ∧
          after.sink = host.sink ∧ after.calls = host.calls ∧ after.limiter = host.limiter) ∧
      (∀ bytes m error after, files.read path = .ok bytes → Module.load? bytes = some m →
        m.start = none →
        (run steps files path config).Stops first (.failed error) after → error.stage ≠ .invoke →
          after.sink = first.sink) ∧
      ∀ bytes m, files.read path = .ok bytes → Module.load? bytes = some m →
        (∃ item ∈ m.imports, ¬item.IsPutn) →
          (∀ host inst func, ¬Calls config bytes (first.loading path bytes.size) host inst func) ∧
          (run steps files path config).outcome first
            = (run 0 files path config).outcome first := by
  refine ⟨?_, fun bytes => sink_run_of_readable, fun stop after => run_stops_iff, ?_, ?_, ?_, ?_⟩
  · intro γ log grows
    cases content : files.read path with
    | error error =>
        rw [outcome_run_of_unread content]
        exact List.prefix_refl _
    | ok bytes =>
        rw [sink_run_of_readable content]
        exact Sink.log_emitAll grows first.sink _
  · intro phase stop after stopsAt
    refine ⟨?_, stopsAt.sink⟩
    rintro error rfl
    exact stopsAt.stage
  · intro bytes inst host stop after readable instantiated stops
    refine ⟨run_stops_iff.mpr ⟨.resolve, .resolve readable instantiated stops⟩, ?_⟩
    rcases resolveEntry_stops stops with ⟨_, _, rfl⟩
    exact ⟨rfl, rfl, rfl⟩
  · intro bytes m error after readable loaded noStart stops notInvoke
    rcases run_stops_iff.mp stops with ⟨phase, stopsAt⟩
    by_cases before : phase.isBeforeCode = true
    · exact stopsAt.sink before
    have stage := stopsAt.stage
    cases stopsAt with
    | start ready made stopsStart =>
        have sameBytes : _ = bytes := Except.ok.inj (ready.readable.symm.trans readable)
        subst sameBytes
        have same : _ = m := Option.some.inj (ready.loaded.symm.trans loaded)
        subst same
        rw [← (admission_yields ready.admits).module] at noStart
        exact absurd stopsStart (start_not_stops_of_no_start noStart)
    | resolve readableToo instantiated stopsResolve =>
        have sameBytes : _ = bytes := Except.ok.inj (readableToo.symm.trans readable)
        subst sameBytes
        rcases resolveEntry_stops stopsResolve with ⟨_, _, rfl⟩
        have kept := instantiate_sink_of_no_start loaded noStart instantiated
        exact kept
    | invoke _ _ _ _ => exact absurd stage notInvoke
    | _ => simp [Phase.isBeforeCode] at before
  · intro bytes m readable loaded bad
    refine ⟨fun host inst func => not_calls_of_bad loaded bad, ?_⟩
    rcases exists_run_stops_of_bad config first readable loaded bad with ⟨stop, after, stops⟩
    exact (stops steps).trans (stops 0).symm

/-- Settings with an entry point that the modules below do not export. -/
def absentEntry : Config where
  entryPoint := "absent"

section

open PlainEngine

/-- The growing module has printed a number in its start function when the look-up fails, and keeps
it. The module with the huge growth has no start function, so nothing is printed, and the one with
mixed imports does not come to call anything. -/
theorem absentEntry_keeps_output :
    (∃ after : Host Recorder, after.sink.values = #[1] ∧
        (run 20 (fun _ => .ok (.ok growingModule)) "m" absentEntry).Stops { sink := {} }
          (.failed (.entryNotFound "absent")) after) ∧
      (∃ after : Host Recorder, after.sink = {} ∧
        (run 20 (fun _ => .ok (.ok hugeGrowth)) "m" absentEntry).Stops { sink := {} }
          (.failed (.entryNotFound "absent")) after) ∧
      (run 20 (fun _ => .ok (.ok mixedImports)) "m" absentEntry).outcome { sink := ({} : Recorder) }
        = (run 0 (fun _ => .ok (.ok mixedImports)) "m" absentEntry).outcome { sink := {} } := by
  have lookup : ∀ {inst : Instance} (host : Host Recorder),
      (inst.module.export? absentEntry.entryPoint).isNone = true →
      (resolveEntry absentEntry.entryPoint inst).Stops host (.failed (.entryNotFound "absent"))
        host := by
    intro inst host absent
    rw [HostM.Stops, resolveEntry, Option.isNone_iff_eq_none.mp absent]
    rfl
  have growing : (instantiate 20 absentEntry.limits growingModule).succeedsWith
      (Host.loading { sink := ({} : Recorder) } "m" growingModule.size)
      (fun inst host => (inst.module.export? absentEntry.entryPoint).isNone
        && host.sink.values == #[1]) = true := by
    decide +kernel
  have huge : (instantiate 20 absentEntry.limits hugeGrowth).succeedsWith
      (Host.loading { sink := ({} : Recorder) } "m" hugeGrowth.size)
      (fun inst _ => (inst.module.export? absentEntry.entryPoint).isNone) = true := by
    decide +kernel
  have noStart : (Module.load? hugeGrowth).any (fun m => m.start.isNone) = true := by
    decide +kernel
  have mixed : (Module.load? mixedImports).any
      (fun m => decide (∃ item ∈ m.imports.toList, ¬item.IsPutn)) = true := by
    decide +kernel
  refine ⟨?_, ?_, ?_⟩
  · rcases HostM.exists_of_succeedsWith growing with ⟨inst, host, instantiated, found⟩
    simp only [Bool.and_eq_true, beq_iff_eq] at found
    rcases (failures_before_code_silent 20 absentEntry (fun _ => .ok (.ok growingModule)) "m"
      { sink := ({} : Recorder) }).2.2.2.2.1 _ inst host _ _ rfl instantiated
        (lookup host found.1) with ⟨stops, _⟩
    exact ⟨host, found.2, stops⟩
  · rcases HostM.exists_of_succeedsWith huge with ⟨inst, host, instantiated, absent⟩
    rcases (Option.any_eq_true _ _).mp noStart with ⟨m, loaded, starts⟩
    have stops : (run 20 (fun _ => .ok (.ok hugeGrowth)) "m" absentEntry).Stops
        { sink := ({} : Recorder) } (.failed (.entryNotFound "absent")) host :=
      run_stops_iff.mpr ⟨.resolve, .resolve rfl instantiated (lookup host absent)⟩
    refine ⟨host, ?_, stops⟩
    exact (failures_before_code_silent 20 absentEntry (fun _ => .ok (.ok hugeGrowth)) "m"
      { sink := ({} : Recorder) }).2.2.2.2.2.1 _ m _ host rfl loaded
        (Option.isNone_iff_eq_none.mp starts) stops (by decide)
  · rcases (Option.any_eq_true _ _).mp mixed with ⟨m, loaded, bad⟩
    exact ((failures_before_code_silent 20 absentEntry (fun _ => .ok (.ok mixedImports)) "m"
      { sink := ({} : Recorder) }).2.2.2.2.2.2 _ m rfl loaded (by simpa using bad)).2

end

end WasmHost
