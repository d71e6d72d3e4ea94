import Mathlib
import WasmHost.Proofs.Host.Moments

/-!
# The stages that run no code

Before and between the calls of a module's code, a run does little with its host. It logs, it asks
for memories and tables, and all else does not concern the host. So a property that is kept by
sequences holds of a whole stage as soon as it holds of these few things. This file goes through the
stages once, for any such property. What it is used for are properties of very different kinds: that
a stage stops only by failing, that it prints nothing, and that it does the same with another host.
-/

namespace WasmHost

open Instantiation

/-- The number that an event reports as printed. -/
def Event.argument? : Event → Option Int32
  | putn value => some value
  | _ => none

/-- A property of computations that exist for every kind of sink. It holds of what does not concern
the host and of logging anything but printed numbers, and it is kept by sequences. -/
structure Compositional (holds : (α : Type) → ((σ : Type) → HostM σ α) → Prop) : Prop where
  ofHostFree : ∀ {α : Type} {x : (σ : Type) → HostM σ α}, HostFree x → holds α x
  record : ∀ {event : Event}, event.argument? = none → holds Unit fun _ => HostM.record event
  bind : ∀ {α β : Type} {x : (σ : Type) → HostM σ α} {next : (σ : Type) → α → HostM σ β},
    holds α x → (∀ value, holds β fun σ => next σ value) → holds β fun σ => x σ >>= next σ

namespace Compositional

variable {holds : (α : Type) → ((σ : Type) → HostM σ α) → Prop} (parts : Compositional holds)

include parts

theorem pure {α : Type} (value : α) : holds α fun _ => Pure.pure value :=
  parts.ofHostFree (.pure value)

theorem sequential [Engine] : Sequential holds :=
  ⟨parts.pure, fun _ => parts.ofHostFree (.fail _), parts.bind⟩

theorem fail {α : Type} (error : Error) : holds α fun _ => HostM.fail error :=
  parts.ofHostFree (.fail error)

theorem checkImports (items : List Import) : holds Unit fun _ => checkImports items := by
  induction items with
  | nil => exact parts.pure ()
  | cons item rest ih =>
      simp only [Instantiation.checkImports]
      split
      · exact parts.fail _
      · exact parts.bind (parts.record rfl) fun _ => ih

theorem loadArtifact (files : Files) (path : String) :
    holds Artifact fun _ => loadArtifact files path := by
  simp only [WasmHost.loadArtifact]
  refine parts.bind (parts.record rfl) fun _ => ?_
  split
  · exact parts.fail _
  · exact parts.bind (parts.record rfl) fun _ => parts.pure _

theorem resolveEntry (name : String) (inst : Instance) :
    holds Entry fun _ => resolveEntry name inst := by
  rcases resolveEntry_cases name inst with ⟨error, _, _, fails⟩ | ⟨entry, _, _, found⟩
  · simp only [fails]
    exact parts.fail error
  · simp only [found]
    exact parts.bind (parts.record rfl) fun _ => parts.pure _

end Compositional

namespace Sequential

variable [Engine] {holds : (α : Type) → ((σ : Type) → HostM σ α) → Prop}

theorem mapM_makeTable (parts : Sequential holds)
    (table : ∀ type, holds Table fun _ => makeTable type) (types : List TableType) :
    holds (List Table) fun _ => types.mapM makeTable :=
  parts.mapM table types

variable (parts : Sequential holds) (memory : ∀ type, holds Memory fun _ => makeMemory type)
  (table : ∀ type, holds Table fun _ => makeTable type)

include parts memory

theorem makeMemories (m : Module) (types : List MemoryType) :
    holds Store fun _ => makeMemories m types := by
  simp only [Instantiation.makeMemories, makeRefHeap]
  refine parts.bind ?_ fun _ => parts.bind (parts.mapM memory types) fun _ => parts.pure _
  split
  · exact parts.bind (memory _) fun _ => parts.pure ()
  · exact parts.pure ()

include table

theorem makeTables (m : Module) (types : List TableType) :
    holds Store fun _ => makeTables m types := by
  simp only [Instantiation.makeTables]
  refine parts.bind (parts.makeMemories memory m _) fun _ => ?_
  exact parts.bind (parts.mapM_makeTable table types) fun _ => parts.pure _

theorem fillTables (m : Module) (segments : List ElemSegment) :
    holds Store fun _ => fillTables m segments := by
  simp only [Instantiation.fillTables]
  refine parts.bind (parts.makeTables memory table m _) fun store => ?_
  refine parts.bind (parts.makeGlobals _ _) fun globals => ?_
  exact parts.copyElems segments { store with globals }

theorem fillMemories (m : Module) (segments : List DataSegment) :
    holds Store fun _ => fillMemories m segments := by
  simp only [Instantiation.fillMemories]
  refine parts.bind (parts.fillTables memory table m _) fun store => ?_
  exact parts.copyDatas segments store

theorem makeStore (m : Module) : holds Store fun _ => makeStore m := by
  simp only [makeStore_eq]
  exact parts.fillMemories memory table m _

end Sequential

end WasmHost
