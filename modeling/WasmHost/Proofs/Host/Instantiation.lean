import Mathlib
import WasmHost.Proofs.Host.Computation
import WasmHost.Proofs.Machine.Shape

/-!
# The parts of instantiation

Instantiation first admits a module: it checks imports and counts, with a new limiter, and links the
module. It then makes the store and runs the start function. This file proves what the parts do to
the host and to the shape of the store. Evaluating constants and copying segments leaves both alone.
Admitting a module leaves a host whose limiter has approved nothing yet, and succeeds only within
the limits on counts.
-/

namespace WasmHost

open Instantiation

theorem Module.isValid_of_load? {m : Module} {bytes : ByteArray} (loaded : load? bytes = some m) :
    m.isValid = true := by
  simp only [load?, Option.bind_eq_bind, Option.bind_eq_some_iff, Option.guard_eq_some',
    Option.pure_def, Option.some.injEq] at loaded
  rcases loaded with ⟨other, _, _, valid, rfl⟩
  exact valid

/-- Linking keeps the module. -/
theorem Linker.toModule_of_link {linker : Linker} {m : Module} {linked : LinkedModule}
    (links : linker.link m = .ok linked) : linked.toModule = m := by
  simp only [link] at links
  split at links
  · simp at links
  · simp only [Except.ok.injEq] at links
    rw [← links]

/-- The import check only logs. -/
theorem Instantiation.checkImports_yields {σ : Type} {host after : Host σ} {items : List Import}
    (checked : (checkImports items).Yields host () after) :
    after.limiter = host.limiter ∧ after.calls = host.calls ∧ after.sink = host.sink := by
  induction items generalizing host with
  | nil =>
      simp only [checkImports, HostM.Yields, HostM.outcome_pure, Prod.mk.injEq, true_and] at checked
      simp [checked]
  | cons item rest ih =>
      simp only [checkImports] at checked
      split at checked
      · simp [HostM.Yields] at checked
      · rcases HostM.bind_yields_iff.mp checked with ⟨_, middle, recorded, checked⟩
        simp only [HostM.Yields, HostM.outcome_record, Prod.mk.injEq, true_and] at recorded
        subst recorded
        have checkedRest := ih checked
        exact checkedRest

variable [Engine]

namespace Sequential

variable {holds : (α : Type) → ((σ : Type) → HostM σ α) → Prop} (parts : Sequential holds)

include parts

theorem evaluate (globals : Array Value) (items : ConstExpr) :
    holds Value fun _ => evaluate globals items := by
  simp only [Instantiation.evaluate]
  split
  · exact parts.pure _
  · exact parts.reject _

theorem makeGlobals (items : List Global) (values : Array Value) :
    holds (Array Value) fun _ => makeGlobals items values := by
  induction items generalizing values with
  | nil => exact parts.pure values
  | cons item rest ih =>
      simp only [Instantiation.makeGlobals]
      exact parts.bind (parts.evaluate values item.value) fun value => ih (values.push value)

theorem makeRef (globals : Array Value) (items : ConstExpr) :
    holds Ref fun _ => makeRef globals items := by
  simp only [Instantiation.makeRef]
  refine parts.bind (parts.evaluate globals items) ?_
  intro value
  split
  · exact parts.pure _
  · exact parts.reject _

theorem makeOffset (globals : Array Value) (items : ConstExpr) :
    holds Nat fun _ => makeOffset globals items := by
  simp only [Instantiation.makeOffset]
  refine parts.bind (parts.evaluate globals items) ?_
  intro value
  split
  · exact parts.pure _
  · exact parts.reject _

theorem copyElems (segments : List ElemSegment) (store : Store) :
    holds Store fun _ => copyElems segments store := by
  induction segments generalizing store with
  | nil => exact parts.pure store
  | cons segment rest ih =>
      simp only [Instantiation.copyElems]
      refine parts.bind
        (parts.mapM (fun items => parts.makeRef store.globals items) segment.items) ?_
      intro refs
      split
      · exact ih _
      · exact ih _
      · refine parts.bind (parts.makeOffset store.globals _) ?_
        intro offset
        split
        · exact ih _
        · exact parts.reject _

theorem copyDatas (segments : List DataSegment) (store : Store) :
    holds Store fun _ => copyDatas segments store := by
  induction segments generalizing store with
  | nil => exact parts.pure store
  | cons segment rest ih =>
      simp only [Instantiation.copyDatas]
      split
      · exact ih _
      · exact ih _
      · refine parts.bind (parts.makeOffset store.globals _) ?_
        intro offset
        split
        · exact ih _
        · exact parts.reject _

theorem addToLinker (linker : Linker) : holds Linker fun _ => addToLinker linker := by
  simp only [Instantiation.addToLinker]
  split
  · exact parts.pure _
  · exact parts.reject _

theorem link (linker : Linker) (m : Module) : holds LinkedModule fun _ => link linker m := by
  simp only [Instantiation.link]
  split
  · exact parts.pure _
  · exact parts.reject _

theorem checkCounts (m : Module) (limits : ResourceLimits) :
    holds Unit fun _ => checkCounts m limits := by
  have each : ∀ resource count limit, holds Unit fun _ => checkCount resource count limit := by
    intro resource count limit
    simp only [checkCount]
    split
    · exact parts.pure ()
    · exact parts.reject _
  simp only [Instantiation.checkCounts]
  exact parts.bind (each _ _ _) fun _ => parts.bind (each _ _ _) fun _ => each _ _ _

end Sequential

namespace Instantiation

section Segments

variable {σ : Type} {host after : Host σ} {store filled : Store}

/-- What writing to a table keeps holds after element segments have been copied. -/
theorem copyElems_invariant {holds : Store → Prop} {segments : List ElemSegment}
    (kept : ∀ store elems, holds store → holds { store with elems })
    (written : ∀ store target start n value, holds store →
      holds (store.updateTable target (·.write start n value)))
    (copied : (copyElems segments store).Yields host filled after) (start : holds store) :
    holds filled := by
  induction segments generalizing store host with
  | nil =>
      simp only [copyElems, HostM.Yields, HostM.outcome_pure, Prod.mk.injEq,
        Except.ok.injEq] at copied
      rw [← copied.1]
      exact start
  | cons segment rest ih =>
      simp only [copyElems] at copied
      rcases HostM.bind_yields_iff.mp copied with ⟨refs, middle, _, copied⟩
      split at copied
      · exact ih copied (kept _ _ start)
      · exact ih copied (kept _ _ start)
      · rcases HostM.bind_yields_iff.mp copied with ⟨offset, later, _, copied⟩
        split at copied
        · exact ih copied (kept _ _ (written _ _ _ _ _ start))
        · simp [HostM.Yields, trap] at copied

/-- Element segments go into tables as they are, without making them longer. -/
theorem copyElems_sameShape {segments : List ElemSegment}
    (copied : (copyElems segments store).Yields host filled after) : store.SameShape filled := by
  apply copyElems_invariant _ _ copied (.refl store)
  · intro other elems same
    exact ⟨same.memories, same.tables⟩
  · intro other target start n value same
    exact same.trans (other.sameShape_updateTable target fun _ => rfl)

/-- What writing to a memory within its size keeps holds after data segments have been copied. -/
theorem copyDatas_invariant {holds : Store → Prop} {segments : List DataSegment}
    (kept : ∀ store datas, holds store → holds { store with datas })
    (written : ∀ store target memory start n value, store.memories[target]? = some memory →
      start + n ≤ memory.size → holds store →
        holds (store.updateMemory target (·.write start n value)))
    (copied : (copyDatas segments store).Yields host filled after) (start : holds store) :
    holds filled := by
  induction segments generalizing store host with
  | nil =>
      simp only [copyDatas, HostM.Yields, HostM.outcome_pure, Prod.mk.injEq,
        Except.ok.injEq] at copied
      rw [← copied.1]
      exact start
  | cons segment rest ih =>
      simp only [copyDatas] at copied
      split at copied
      · exact ih copied (kept _ _ start)
      · exact ih copied (kept _ _ start)
      · rcases HostM.bind_yields_iff.mp copied with ⟨offset, later, _, copied⟩
        split at copied
        · rename_i inside
          rcases (Option.any_eq_true _ _).mp inside with ⟨memory, present, room⟩
          have room := of_decide_eq_true room
          exact ih copied (kept _ _ (written _ _ _ _ _ _ present room start))
        · simp [HostM.Yields, trap] at copied

/-- Data segments go into memories as they are, without making them longer. -/
theorem copyDatas_sameShape {segments : List DataSegment}
    (copied : (copyDatas segments store).Yields host filled after) : store.SameShape filled := by
  apply copyDatas_invariant _ _ copied (.refl store)
  · intro other datas same
    exact ⟨same.memories, same.tables⟩
  · intro other target memory start n value _ _ same
    exact same.trans (other.sameShape_updateMemory target fun _ => rfl)

end Segments

section Stages

variable {σ : Type}

/-- The store with memories of the given types only. -/
def makeMemories (m : Module) (types : List MemoryType) : HostM σ Store := do
  makeRefHeap m
  let memories ← types.mapM makeMemory
  pure { memories := memories.toArray }

/-- The store with all memories, and tables of the given types. -/
def makeTables (m : Module) (types : List TableType) : HostM σ Store := do
  let store ← makeMemories m m.memories.toList
  let tables ← types.mapM makeTable
  pure { store with tables := tables.toArray }

/-- The store with all memories, tables and globals, and the given segments copied into tables. -/
def fillTables (m : Module) (segments : List ElemSegment) : HostM σ Store := do
  let store ← makeTables m m.tables.toList
  let globals ← makeGlobals m.globals.toList #[]
  copyElems segments { store with globals }

/-- The store with the given segments copied into memories after all segments for tables. -/
def fillMemories (m : Module) (segments : List DataSegment) : HostM σ Store := do
  let store ← fillTables m m.elems.toList
  copyDatas segments store

/-- Making a store goes through these stages. -/
theorem makeStore_eq (m : Module) :
    (makeStore m : HostM σ Store) = fillMemories m m.datas.toList := by
  simp only [makeStore, fillMemories, fillTables, makeTables, makeMemories, bind_assoc, pure_bind]

end Stages

section Admission

variable {σ : Type} {host after : Host σ} {m : Module} {limits : ResourceLimits}

/-- What is done about a decoded module before its store is made. -/
def admission (limits : ResourceLimits) (size : Nat) (m : Module) : HostM σ LinkedModule := do
  modify fun host => { host with limiter := .ofLimits limits, calls := 0 }
  HostM.record (.compiling size)
  checkImports m.imports.toList
  let linker ← addToLinker {}
  let linked ← link linker m
  checkCounts m limits
  pure linked

/-- Instantiation of a module that can be decoded: admission, store, start function, report. -/
theorem instantiate_eq [Sink σ] {bytes : ByteArray} (steps : Nat) (limits : ResourceLimits)
    (loaded : Module.load? bytes = some m) :
    (instantiate steps limits bytes : HostM σ Instance) = (do
      let linked ← admission limits bytes.size m
      let store ← makeStore m
      let inst ← start steps ⟨linked, store⟩
      HostM.record (.instantiated m.imports.size m.exports.size (← get).limiter.current)
      pure inst) := by
  simp only [instantiate, loaded, admission, bind_assoc, pure_bind]

/-- What has been done once a module is instantiated. -/
theorem instantiate_yields_iff [Sink σ] {bytes : ByteArray} {steps : Nat} {inst : Instance} :
    (instantiate steps limits bytes).Yields host inst after ↔
      ∃ m linked store, ∃ admitted ready started : Host σ, Module.load? bytes = some m ∧
        (admission limits bytes.size m).Yields host linked admitted ∧
        (makeStore m).Yields admitted store ready ∧
        (start steps ⟨linked, store⟩).Yields ready inst started ∧
        after = started.record
          (.instantiated m.imports.size m.exports.size started.limiter.current) := by
  cases loaded : Module.load? bytes with
  | none => simp [instantiate, loaded, HostM.Yields, HostM.outcome_bind]
  | some m =>
      rw [instantiate_eq steps limits loaded]
      simp only [HostM.bind_yields_iff]
      constructor
      · rintro ⟨linked, admitted, admits, store, ready, made, inst', started, starts, _, _, got, _,
          logged, recorded, yields⟩
        simp only [HostM.Yields, HostM.outcome_get, HostM.outcome_record, HostM.outcome_pure,
          Prod.mk.injEq, Except.ok.injEq, true_and] at got recorded yields
        rcases got with ⟨rfl, rfl⟩
        rcases yields with ⟨rfl, rfl⟩
        exact ⟨m, linked, store, admitted, ready, started, rfl, admits, made, starts, recorded.symm⟩
      · rintro ⟨_, linked, store, admitted, ready, started, same, admits, made, starts, rfl⟩
        simp only [Option.some.injEq] at same
        subst same
        exact ⟨linked, admitted, admits, store, ready, made, inst, started, starts, started,
          started, rfl, (), _, rfl, rfl⟩

theorem addToLinker_yields {linker changed : Linker}
    (defined : (addToLinker linker).Yields host changed after) : after = host :=
  (HostFree.sequential.addToLinker linker).host_eq defined

theorem link_yields {linker : Linker} {linked : LinkedModule}
    (links : (link linker m).Yields host linked after) : after = host ∧ linked.toModule = m := by
  refine ⟨(HostFree.sequential.link linker m).host_eq links, ?_⟩
  simp only [link] at links
  split at links
  · rename_i bound
    simp only [HostM.Yields, HostM.outcome_pure, Prod.mk.injEq, Except.ok.injEq] at links
    exact Linker.toModule_of_link (links.1 ▸ bound)
  · simp [HostM.Yields] at links

theorem checkCount_yields {resource : Resource} {count : Nat} {limit : UInt64}
    (checked : (checkCount resource count limit).Yields host () after) :
    after = host ∧ count ≤ limit.toNat := by
  simp only [checkCount] at checked
  split at checked
  · rename_i within
    simp only [HostM.Yields, HostM.outcome_pure, Prod.mk.injEq, true_and] at checked
    exact ⟨checked.symm, within⟩
  · simp [HostM.Yields] at checked

/-- A module keeps to the limits on counts. -/
structure WithinCounts (limits : ResourceLimits) (m : Module) : Prop where
  instances : 1 ≤ limits.maxInstances.toNat
  memories : m.memories.size ≤ limits.maxMemories.toNat
  tables : m.tables.size ≤ limits.maxTables.toNat

theorem checkCounts_yields (checked : (checkCounts m limits).Yields host () after) :
    after = host ∧ WithinCounts limits m := by
  simp only [checkCounts] at checked
  rcases HostM.bind_yields_iff.mp checked with ⟨_, first, instances, checked⟩
  rcases HostM.bind_yields_iff.mp checked with ⟨_, second, memories, tables⟩
  rcases checkCount_yields instances with ⟨rfl, instancesWithin⟩
  rcases checkCount_yields memories with ⟨rfl, memoriesWithin⟩
  rcases checkCount_yields tables with ⟨rfl, tablesWithin⟩
  exact ⟨rfl, instancesWithin, memoriesWithin, tablesWithin⟩

/-- What holds of the host and of the linked module after a module was admitted. -/
structure Admitted (limits : ResourceLimits) (m : Module) (linked : LinkedModule)
    (host after : Host σ) : Prop where
  module : linked.toModule = m
  limiter : after.limiter = .ofLimits limits
  calls : after.calls = 0
  sink : after.sink = host.sink
  counts : WithinCounts limits m

theorem admission_yields {size : Nat} {linked : LinkedModule}
    (admitted : (admission limits size m).Yields host linked after) :
    Admitted limits m linked host after := by
  simp only [admission] at admitted
  rcases HostM.bind_yields_iff.mp admitted with ⟨_, reset, modified, admitted⟩
  rcases HostM.bind_yields_iff.mp admitted with ⟨_, logged, recorded, admitted⟩
  rcases HostM.bind_yields_iff.mp admitted with ⟨_, checked, imports, admitted⟩
  rcases HostM.bind_yields_iff.mp admitted with ⟨_, defining, defined, admitted⟩
  rcases HostM.bind_yields_iff.mp admitted with ⟨_, linking, links, admitted⟩
  rcases HostM.bind_yields_iff.mp admitted with ⟨_, counted, counts, yields⟩
  simp only [HostM.Yields, HostM.outcome_modify, Prod.mk.injEq, true_and] at modified
  simp only [HostM.Yields, HostM.outcome_record, Prod.mk.injEq, true_and] at recorded
  simp only [HostM.Yields, HostM.outcome_pure, Prod.mk.injEq, Except.ok.injEq] at yields
  rcases checkImports_yields imports with ⟨limiter, calls, sink⟩
  rcases addToLinker_yields defined
  rcases link_yields links with ⟨rfl, module⟩
  rcases checkCounts_yields counts with ⟨rfl, within⟩
  rcases yields with ⟨rfl, rfl⟩
  subst modified recorded
  exact ⟨module, limiter, calls, sink, within⟩

end Admission

end Instantiation

end WasmHost
