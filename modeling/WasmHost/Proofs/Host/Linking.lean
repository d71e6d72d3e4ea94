import Mathlib
import WasmHost.Proofs.Host.Printing
import WasmHost.Proofs.Host.Sandbox
import WasmHost.Proofs.Machine.HostCall
import WasmHost.Proofs.Machine.Linked

/-!
# Imports and what they are linked to

The host function is described twice. The import check compares an import with a signature, and the
linker binds it to a definition of its name, if that has the type which the import asks for. This
file proves that the two descriptions accept the same imports. The check passes exactly the lists
whose every item is `env::js_putn` with its type, and otherwise reports the first item that is not,
for the reason that applies to it. The linker binds exactly the same lists. Once it has done so, an
index of a function, table, memory or global that the module can name is one that the machine has an
entity for, of the type that validation has assumed, and a call of an imported function is a call of
the host's.
-/

namespace WasmHost

open Instantiation

variable {σ : Type}

namespace HostSignature

theorem sameType_iff {kind : NumType} {type : ValType} :
    sameType kind type = true ↔ type = .num kind := by
  cases type with
  | num other => simp [sameType, eq_comm]
  | v128 => simp [sameType]
  | ref nullable heap => simp [sameType]

theorem sameTypes_iff {kinds : List NumType} {types : List ValType} :
    sameTypes kinds types = true ↔ types = kinds.map .num := by
  induction kinds generalizing types with
  | nil => cases types <;> simp [sameTypes]
  | cons kind kinds ih =>
      cases types with
      | nil => simp [sameTypes]
      | cons type types =>
          have rest := @ih types
          simp only [sameTypes, Bool.and_eq_true, decide_eq_true_eq] at rest
          simp only [sameTypes, List.length_cons, Nat.add_right_cancel_iff, List.zip_cons_cons,
            List.all_cons, Bool.and_eq_true, decide_eq_true_eq, sameType_iff, List.map_cons,
            List.cons.injEq, ← rest]
          tauto

/-- The type of the functions that a signature describes. -/
def type (signature : HostSignature) : FuncType where
  params := signature.params.map .num
  results := signature.results.map .num

/-- A signature accepts its own type and no other. -/
theorem accepts_iff {signature : HostSignature} {type : FuncType} :
    signature.accepts type = true ↔ type = signature.type := by
  rcases type with ⟨params, results⟩
  simp [accepts, sameTypes_iff, HostSignature.type]

end HostSignature

namespace Import

/-- The import is the host function under its name, with its type. -/
def IsPutn (item : Import) : Prop :=
  item.module = "env" ∧ item.name = "js_putn" ∧ item.type = .func ⟨[.i32], []⟩

instance (item : Import) : Decidable item.IsPutn :=
  inferInstanceAs (Decidable (_ ∧ _ ∧ _))

/-- What is wrong with an import that is not the host function, and how it is worded. -/
inductive Misfit (item : Import) : (detail : String) → Prop
  | unknownName (other : ¬(item.module = "env" ∧ item.name = "js_putn")) :
      Misfit item "no host function is provided under this name"
  | wrongType {type : FuncType} (named : item.module = "env" ∧ item.name = "js_putn")
      (func : item.type = .func type) (other : type ≠ ⟨[.i32], []⟩) :
      Misfit item
        ("signature mismatch: host provides (func (param i32)), module expects " ++ type.text)
  | notFunction (named : item.module = "env" ∧ item.name = "js_putn")
      (other : ∀ type, item.type ≠ .func type) :
      Misfit item
        ("host provides (func (param i32)), module expects a " ++ item.type.kind ++ " import")

variable {item : Import}

theorem offer?_of_named (named : item.module = "env" ∧ item.name = "js_putn") :
    item.offer? = some .putn := by
  simp [offer?, HostSignature.offered, HostSignature.putn, named]

theorem offer?_of_not_named (other : ¬(item.module = "env" ∧ item.name = "js_putn")) :
    item.offer? = none := by
  have unnamed : ¬("env" = item.module ∧ "js_putn" = item.name) := by
    simpa only [eq_comm] using other
  simp [offer?, HostSignature.offered, HostSignature.putn, unnamed]

theorem accepts_putn_iff {type : FuncType} :
    HostSignature.putn.accepts type = true ↔ type = ⟨[.i32], []⟩ :=
  HostSignature.accepts_iff

theorem text_putn : HostSignature.putn.text = "(func (param i32))" := by
  decide +kernel

theorem detail_wrongType (type : FuncType) : (ImportFault.wrongType .putn type).detail
    = "signature mismatch: host provides (func (param i32)), module expects " ++ type.text := by
  have worded : (ImportFault.wrongType .putn type).detail = "signature mismatch: host provides "
      ++ HostSignature.putn.text ++ ", module expects " ++ type.text := rfl
  have joined : "signature mismatch: host provides " ++ "(func (param i32))" ++ ", module expects "
      = "signature mismatch: host provides (func (param i32)), module expects " := by
    decide +kernel
  rw [worded, text_putn, joined]

theorem detail_notFunction (kind : String) : (ImportFault.notFunction .putn kind).detail
    = "host provides (func (param i32)), module expects a " ++ kind ++ " import" := by
  have worded : (ImportFault.notFunction .putn kind).detail = "host provides "
      ++ HostSignature.putn.text ++ ", module expects a " ++ kind ++ " import" := rfl
  have joined : "host provides " ++ "(func (param i32))" ++ ", module expects a "
      = "host provides (func (param i32)), module expects a " := by
    decide +kernel
  rw [worded, text_putn, joined]

theorem fault?_of_named (named : item.module = "env" ∧ item.name = "js_putn") :
    item.fault? =
      match item.type with
      | .func type => if type = ⟨[.i32], []⟩ then none else some (.wrongType .putn type)
      | other => some (.notFunction .putn other.kind) := by
  simp only [fault?, offer?_of_named named]
  cases item.type with
  | func type => simp only [accepts_putn_iff]
  | _ => rfl

theorem fault?_of_not_named (other : ¬(item.module = "env" ∧ item.name = "js_putn")) :
    item.fault? = some .unknownName := by
  simp only [fault?, offer?_of_not_named other]

/-- The check finds nothing wrong exactly with the host function itself. -/
theorem fault?_eq_none_iff : item.fault? = none ↔ item.IsPutn := by
  by_cases named : item.module = "env" ∧ item.name = "js_putn"
  · rw [fault?_of_named named]
    cases type : item.type <;> simp [IsPutn, named, type]
  · rw [fault?_of_not_named named]
    simp only [reduceCtorEq, false_iff]
    rintro ⟨inNamespace, name, _⟩
    exact named ⟨inNamespace, name⟩

/-- Whatever the check finds wrong is wrong, and it is worded as such. -/
theorem misfit_of_fault? {fault : ImportFault} (found : item.fault? = some fault) :
    item.Misfit fault.detail := by
  by_cases named : item.module = "env" ∧ item.name = "js_putn"
  · rw [fault?_of_named named] at found
    by_cases function : ∃ type, item.type = .func type
    · rcases function with ⟨type, func⟩
      simp only [func, Option.ite_none_left_eq_some, Option.some.injEq] at found
      rcases found with ⟨other, rfl⟩
      rw [detail_wrongType]
      exact .wrongType named func other
    · have other : ∀ type, item.type ≠ .func type := not_exists.mp function
      have kind : fault = .notFunction .putn item.type.kind := by
        cases type : item.type <;> simp_all
      subst kind
      rw [detail_notFunction]
      exact .notFunction named other
  · rw [fault?_of_not_named named, Option.some.injEq] at found
    subst found
    exact .unknownName named

theorem exists_misfit (other : ¬item.IsPutn) :
    ∃ fault, item.fault? = some fault ∧ item.Misfit fault.detail := by
  rw [← fault?_eq_none_iff] at other
  rcases Option.ne_none_iff_exists'.mp other with ⟨fault, found⟩
  exact ⟨fault, found, misfit_of_fault? found⟩

end Import

/-- The host after it has logged that imports were resolved. -/
def Host.resolving (host : Host σ) (items : List Import) : Host σ :=
  { host with
    events := host.events
      ++ (items.map fun item => Event.importResolved item.module item.name).toArray }

@[simp]
theorem Host.resolving_nil (host : Host σ) : host.resolving [] = host := by
  simp [resolving]

@[simp]
theorem Host.resolving_cons (host : Host σ) (item : Import) (rest : List Import) :
    (host.record (.importResolved item.module item.name)).resolving rest
      = host.resolving (item :: rest) := by
  simp [resolving, record]

namespace Instantiation

section Check

/-- Good imports are logged one after the other, and the check goes on with what follows them. -/
theorem outcome_checkImports_append {good : List Import} (allGood : ∀ item ∈ good, item.IsPutn)
    (rest : List Import) (host : Host σ) :
    (checkImports (good ++ rest)).outcome host
      = (checkImports rest).outcome (host.resolving good) := by
  induction good generalizing host with
  | nil => simp
  | cons item good ih =>
      have first : item.fault? = none := Import.fault?_eq_none_iff.mpr (allGood item (by simp))
      have others : ∀ other ∈ good, other.IsPutn := fun other mem => allGood other (by simp [mem])
      simp only [List.cons_append, checkImports, first, HostM.outcome_bind, HostM.outcome_record]
      rw [ih others, Host.resolving_cons]

theorem outcome_checkImports_of_good {items : List Import} (allGood : ∀ item ∈ items, item.IsPutn)
    (host : Host σ) : (checkImports items).outcome host = (.ok (), host.resolving items) := by
  have checked := outcome_checkImports_append allGood [] host
  rwa [List.append_nil] at checked

/-- The first bad import ends the check. -/
theorem exists_outcome_checkImports_of_bad {good : List Import} {bad : Import}
    (allGood : ∀ item ∈ good, item.IsPutn) (other : ¬bad.IsPutn) (rest : List Import)
    (host : Host σ) :
    ∃ detail, bad.Misfit detail ∧ (checkImports (good ++ bad :: rest)).outcome host
      = (.error (.failed (.importUnresolved bad.module bad.name detail)), host.resolving good) := by
  rcases Import.exists_misfit other with ⟨fault, found, misfit⟩
  refine ⟨fault.detail, misfit, ?_⟩
  rw [outcome_checkImports_append allGood]
  simp [checkImports, found, Import.unresolved]

/-- A list of imports is good as a whole, or it has a first bad one. -/
theorem good_or_exists_bad (items : List Import) :
    (∀ item ∈ items, item.IsPutn) ∨
      ∃ good bad rest, items = good ++ bad :: rest ∧ (∀ item ∈ good, item.IsPutn) ∧
        ¬bad.IsPutn := by
  cases found : items.find? fun item => !decide item.IsPutn with
  | none =>
      left
      simpa using found
  | some bad =>
      rcases List.find?_eq_some_iff_append.mp found with ⟨other, good, rest, parts, allGood⟩
      exact .inr ⟨good, bad, rest, parts, by simpa using allGood, by simpa using other⟩

theorem checkImports_yields_iff {items : List Import} {host after : Host σ} :
    (checkImports items).Yields host () after ↔
      (∀ item ∈ items, item.IsPutn) ∧ after = host.resolving items := by
  rcases good_or_exists_bad items with allGood | ⟨good, bad, rest, rfl, allGood, other⟩
  · rw [HostM.Yields, outcome_checkImports_of_good allGood]
    simp only [Prod.mk.injEq, true_and]
    exact ⟨fun same => ⟨allGood, same.symm⟩, fun both => both.2.symm⟩
  · rcases exists_outcome_checkImports_of_bad allGood other rest host with ⟨detail, _, refused⟩
    rw [HostM.Yields, refused]
    simp only [Prod.mk.injEq, reduceCtorEq, false_and, false_iff]
    rintro ⟨everyGood, _⟩
    exact other (everyGood bad (by simp))

end Check

end Instantiation

namespace Linker

variable {linker : Linker} {m : Module}

/-- The linker for which the one host function was defined. -/
def offering : Linker where
  definitions := [⟨"env", "js_putn", .putn⟩]

theorem outcome_addToLinker [Engine] (host : Host σ) :
    (addToLinker {}).outcome host = (.ok offering, host) :=
  rfl

theorem find?_offering (module name : String) :
    offering.find? module name
      = if module = "env" ∧ name = "js_putn" then some .putn else none := by
  have swapped : ("env" = module ∧ "js_putn" = name) ↔ (module = "env" ∧ name = "js_putn") := by
    rw [eq_comm, @eq_comm _ "js_putn"]
  by_cases named : module = "env" ∧ name = "js_putn" <;> simp [find?, offering, swapped, named]

/-- The linker binds exactly the imports that are the host function. -/
theorem resolve_offering_iff {item : Import} :
    (∃ func, offering.resolve item = .ok func) ↔ item.IsPutn := by
  simp only [resolve, find?_offering]
  by_cases named : item.module = "env" ∧ item.name = "js_putn"
  · by_cases typed : item.type = .func HostFunc.putn.type
    · have good : item.IsPutn := ⟨named.1, named.2, typed⟩
      exact iff_of_true ⟨⟨.putn, typed⟩, by simp [named, typed]⟩ good
    · have bad : ¬item.IsPutn := fun good => typed good.2.2
      simp [named, typed, bad]
  · have bad : ¬item.IsPutn := fun good => named ⟨good.1, good.2.1⟩
    simp [named, bad]

/-- All of a list is bound if each of its imports can be. -/
theorem resolveAll_iff {items : List Import} :
    (∃ bound, linker.resolveAll items = .ok bound) ↔
      ∀ item ∈ items, ∃ func, linker.resolve item = .ok func := by
  induction items with
  | nil => simp [resolveAll]
  | cons item rest ih =>
      rw [List.forall_mem_cons, ← ih]
      simp only [resolveAll]
      rcases linker.resolve item with refusal | func
      · simp
      · rcases linker.resolveAll rest with refusal | bound <;> simp

theorem link_iff : (∃ linked, linker.link m = .ok linked) ↔
    ∀ item ∈ m.imports, ∃ func, linker.resolve item = .ok func := by
  have items := @resolveAll_iff linker m.imports.toList
  simp only [Array.mem_toList_iff] at items
  rw [← items, link]
  rcases linker.resolveAll m.imports.toList with refusal | bound <;> simp

/-- The linker binds the imports of exactly the modules that pass the import check. -/
theorem link_offering_iff :
    (∃ linked, offering.link m = .ok linked) ↔ ∀ item ∈ m.imports, item.IsPutn := by
  simp only [link_iff, resolve_offering_iff]

end Linker

namespace LinkedModule

/-- All that a module can name has an entity: an imported function is the host's, with the type that
the import asks for, the functions after them are the module's own, every function has the type that
it was declared with, and tables, memories and globals are the module's own. -/
structure Binds (linked : LinkedModule) (m : Module) : Prop where
  module : linked.toModule = m
  imported : ∀ index item, m.imports[index]? = some item →
    linked.callee? index = some (.host .putn) ∧ item.type = .func HostFunc.putn.type
  defined : ∀ index, linked.callee? (m.imports.size + index) = (m.funcs[index]?).map .defined
  func : ∀ index type, m.funcTypes[index]? = some type ↔
    ∃ callee, linked.callee? index = some callee ∧ callee.type = type
  tables : m.tableTypes = m.tables
  memories : m.memoryTypes = m.memories
  globals : m.globalTypes = m.globals.map (·.type)

variable (linked : LinkedModule)

theorem callee?_of_imported {index : Nat} (imported : index < linked.imports.size) :
    linked.callee? index = some (.host .putn) := by
  rw [← linked.size_bound] at imported
  have present : linked.bound[index]? = some .putn := by
    rw [Array.getElem?_eq_getElem imported]
  simp only [callee?, present]

theorem binds : linked.Binds linked.toModule := by
  refine ⟨rfl, ?_, ?_, ?_, linked.tableTypes_eq, linked.memoryTypes_eq, linked.globalTypes_eq⟩
  · intro index item present
    have imported := (Array.getElem?_eq_some_iff.mp present).1
    refine ⟨linked.callee?_of_imported imported, ?_⟩
    have types := congrArg (·[index]?) linked.fits
    simp only [Array.getElem?_map, present, Option.map_some] at types
    rcases Option.map_eq_some_iff.mp types.symm with ⟨func, _, same⟩
    cases func
    exact same.symm
  · intro index
    have beyond : linked.bound[linked.imports.size + index]? = none := by
      rw [Array.getElem?_eq_none]
      rw [linked.size_bound]
      exact Nat.le_add_right _ _
    simp only [callee?, beyond, linked.size_bound, Nat.add_sub_cancel_left]
  · intro index type
    rw [linked.funcTypes_getElem?, Option.map_eq_some_iff]

end LinkedModule

namespace HostM

variable {α β : Type}

/-- The computation fails only by refusing a module. -/
def OnlyRejects [Engine] (x : HostM σ α) : Prop :=
  ∀ host error after, x.Stops host (.failed error) after → ∃ fault, error = .rejected fault

namespace OnlyRejects

variable [Engine]

theorem pure (value : α) : OnlyRejects (Pure.pure value : HostM σ α) := by
  intro host error after stops
  simp [Stops] at stops

theorem ofModify (change : Host σ → Host σ) : OnlyRejects (modify change : HostM σ Unit) := by
  intro host error after stops
  simp [Stops] at stops

theorem ofGet : OnlyRejects (get : HostM σ (Host σ)) := by
  intro host error after stops
  simp [Stops] at stops

theorem reject (fault : InstantiationFault) :
    OnlyRejects (HostM.reject fault : HostM σ α) := by
  intro host error after stops
  simp only [Stops, outcome_reject, Prod.mk.injEq, Except.error.injEq, Stop.failed.injEq] at stops
  exact ⟨fault, stops.1.symm⟩

theorem bind {x : HostM σ α} {next : α → HostM σ β} (first : OnlyRejects x)
    (rest : ∀ value, OnlyRejects (next value)) : OnlyRejects (x >>= next) := by
  intro host error after stops
  rcases bind_stops_iff.mp stops with stopsFirst | ⟨value, middle, _, stopsRest⟩
  · exact first host error after stopsFirst
  · exact rest value middle error after stopsRest

theorem sequential : Sequential fun _ x => (x σ).OnlyRejects :=
  ⟨pure, reject, bind⟩

end OnlyRejects

end HostM

namespace Instantiation

variable [Engine]

theorem onlyRejects_makeMemory (type : MemoryType) :
    (makeMemory type : HostM σ Memory).OnlyRejects := by
  apply HostM.OnlyRejects.bind .ofGet
  intro host
  split
  · intro host error after stops
    simp [HostM.Stops] at stops
  · refine .bind (.ofModify _) fun _ => ?_
    split
    · split
      · exact .reject _
      · split
        · exact .pure _
        · exact .reject _
    · exact .reject _

theorem onlyRejects_makeTable (type : TableType) :
    (makeTable type : HostM σ Table).OnlyRejects := by
  apply HostM.OnlyRejects.bind .ofGet
  intro host
  split
  · split
    · exact .pure _
    · exact .reject _
  · exact .reject _

theorem onlyRejects_makeStore (m : Module) : (makeStore m : HostM σ Store).OnlyRejects :=
  HostM.OnlyRejects.sequential.makeStore onlyRejects_makeMemory onlyRejects_makeTable m

variable [Sink σ]

theorem onlyRejects_start (steps : Nat) (inst : Instance) :
    (start steps inst : HostM σ Instance).OnlyRejects := by
  intro host error after stops
  rw [HostM.Stops, outcome_start] at stops
  split at stops
  · rename_i func _
    generalize callAfter steps host inst func = progress at stops
    rcases progress with run | ⟨run, results | abort | _⟩
    · simp at stops
    · simp at stops
    · simp only [Prod.mk.injEq, Except.error.injEq, Stop.failed.injEq] at stops
      exact ⟨_, stops.1.symm⟩
    · simp at stops
  · simp at stops

/-- The part of instantiation after linking, in which no import plays a part. -/
def installation (steps : Nat) (limits : ResourceLimits) (linked : LinkedModule) :
    HostM σ Instance := do
  checkCounts linked.toModule limits
  let store ← makeStore linked.toModule
  let inst ← start steps ⟨linked, store⟩
  HostM.record (.instantiated linked.imports.size linked.exports.size (← get).limiter.current)
  pure inst

theorem onlyRejects_installation (steps : Nat) (limits : ResourceLimits) (linked : LinkedModule) :
    (installation steps limits linked : HostM σ Instance).OnlyRejects := by
  apply HostM.OnlyRejects.bind (HostM.OnlyRejects.sequential.checkCounts linked.toModule limits)
  intro _
  apply HostM.OnlyRejects.bind (onlyRejects_makeStore linked.toModule)
  intro store
  apply HostM.OnlyRejects.bind (onlyRejects_start steps ⟨linked, store⟩)
  intro inst
  exact .bind .ofGet fun _ => .bind (.ofModify _) fun _ => .pure inst

end Instantiation

/-- The host when the compilation of a module of the given size begins. -/
def Host.compiling (host : Host σ) (limits : ResourceLimits) (size : Nat) : Host σ :=
  (host.fresh limits).record (.compiling size)

section Instantiate

variable [Engine] [Sink σ] {bytes : ByteArray} {m : Module} {linked : LinkedModule}
  (loaded : Module.load? bytes = some m) (steps : Nat) (limits : ResourceLimits) (host : Host σ)

include loaded

/-- Instantiation of a module whose imports can be bound is all that comes after linking. -/
theorem outcome_instantiate_of_linked (links : Linker.offering.link m = .ok linked) :
    (instantiate steps limits bytes).outcome host = (installation steps limits linked).outcome
      ((host.compiling limits bytes.size).resolving m.imports.toList) := by
  have imports : ∀ item ∈ m.imports.toList, item.IsPutn := by
    simpa using Linker.link_offering_iff.mp ⟨linked, links⟩
  have same := Linker.toModule_of_link links
  subst same
  have checked :
      (checkImports linked.imports.toList).Yields (host.compiling limits bytes.size) () _ :=
    outcome_checkImports_of_good imports _
  have defined : (addToLinker {}).Yields _ Linker.offering _ :=
    Linker.outcome_addToLinker ((host.compiling limits bytes.size).resolving linked.imports.toList)
  rw [outcome_instantiate]
  simp only [instantiateFresh, loaded]
  rw [HostM.outcome_bind, HostM.outcome_record]
  refine checked.outcome_bind.trans (defined.outcome_bind.trans ?_)
  simp only [Instantiation.link, links, pure_bind]
  rfl

/-- Instantiation of a module with a bad import is the check alone. -/
theorem instantiate_stops_of_checkImports {stop : Stop} {after : Host σ}
    (refused :
      (checkImports m.imports.toList).Stops (host.compiling limits bytes.size) stop after) :
    (instantiate steps limits bytes).Stops host stop after := by
  rw [HostM.Stops, outcome_instantiate]
  simp only [instantiateFresh, loaded]
  rw [HostM.outcome_bind, HostM.outcome_record]
  exact refused.bind

end Instantiate

/-- The first import that is not the host function is reported, with what is wrong with it, and
those before it have been logged. -/
inductive ImportRefusal (items : List Import) (host : Host σ) : Stop → Host σ → Prop
  | intro {good rest : List Import} {bad : Import} {detail : String}
      (parts : items = good ++ bad :: rest) (allGood : ∀ item ∈ good, item.IsPutn)
      (other : ¬bad.IsPutn) (misfit : bad.Misfit detail) :
      ImportRefusal items host (.failed (.importUnresolved bad.module bad.name detail))
        (host.resolving good)

theorem exists_importRefusal {items : List Import} (bad : ∃ item ∈ items, ¬item.IsPutn)
    (host : Host σ) :
    ∃ stop after, ImportRefusal items host stop after ∧
      (checkImports items).Stops host stop after := by
  rcases good_or_exists_bad items with allGood | ⟨good, first, rest, rfl, allGood, other⟩
  · rcases bad with ⟨item, item_mem, other⟩
    exact absurd (allGood item item_mem) other
  · rcases exists_outcome_checkImports_of_bad allGood other rest host with ⟨detail, misfit, refused⟩
    exact ⟨_, _, ⟨rfl, allGood, other, misfit⟩, refused⟩

/-- The import check passes exactly the lists of which every item is the host function with its
type, and logs each of them. Any other list is refused at its first item that is not, with the name
of that item and what is wrong with it, after the items before it were logged. Instantiation makes
this check for every valid module. Exactly if it passes, the linker with the one definition that the
host makes binds all imports of the module. Then every function of the module has a callee of the
type that it was declared with, an imported one the host function, whose argument is handed out by a
call of it, and nothing else is imported. All that can still make instantiation fail lies in what
comes after linking, which fails only by refusing the module. -/
theorem import_check_exact [Engine] [Sink σ] (host : Host σ) :
    (∀ items : List Import,
        ((∃ after, (checkImports items).Yields host () after) ↔ ∀ item ∈ items, item.IsPutn) ∧
        ((∀ item ∈ items, item.IsPutn) →
          (checkImports items).Yields host () (host.resolving items)) ∧
        ((∃ item ∈ items, ¬item.IsPutn) →
          ∃ stop after, ImportRefusal items host stop after ∧
            (checkImports items).Stops host stop after)) ∧
      (addToLinker {}).Yields host Linker.offering host ∧
      ∀ bytes m, Module.load? bytes = some m →
        ((∃ item ∈ m.imports, ¬item.IsPutn) → ∀ steps limits,
          ∃ stop after,
            ImportRefusal m.imports.toList (host.compiling limits bytes.size) stop after ∧
            (instantiate steps limits bytes).Stops host stop after) ∧
        ((∀ item ∈ m.imports, item.IsPutn) ↔ ∃ linked, Linker.offering.link m = .ok linked) ∧
        ∀ linked, Linker.offering.link m = .ok linked →
          linked.Binds m ∧
          (∀ machine : Machine, machine.module = linked → ∀ index < m.imports.size,
            ∀ code value operands, machine.frame.operands = .i32 value :: operands →
              (machine.frame.code = .call index :: code →
                machine.step = .emit
                  { machine with frame := { machine.frame with code, operands } } value) ∧
              (machine.frame.code = .returnCall index :: code →
                machine.step = .emit
                  { machine with
                    frame := { machine.frame with code := [], labels := [], operands := [] } }
                  value)) ∧
          ∀ steps limits,
            (instantiate steps limits bytes).outcome host
              = (installation steps limits linked).outcome
                  ((host.compiling limits bytes.size).resolving m.imports.toList) ∧
            ∀ error after, (instantiate steps limits bytes).Stops host (.failed error) after →
              ∃ fault, error = .rejected fault := by
  refine ⟨?_, Linker.outcome_addToLinker host, ?_⟩
  · intro items
    refine ⟨?_, ?_, fun bad => exists_importRefusal bad host⟩
    · constructor
      · rintro ⟨after, checked⟩
        exact (checkImports_yields_iff.mp checked).1
      · intro allGood
        exact ⟨_, checkImports_yields_iff.mpr ⟨allGood, rfl⟩⟩
    · intro allGood
      exact checkImports_yields_iff.mpr ⟨allGood, rfl⟩
  · intro bytes m loaded
    refine ⟨?_, Linker.link_offering_iff.symm, ?_⟩
    · intro bad steps limits
      have listed : ∃ item ∈ m.imports.toList, ¬item.IsPutn := by simpa using bad
      rcases exists_importRefusal listed (host.compiling limits bytes.size) with
        ⟨stop, after, refusal, refused⟩
      exact ⟨stop, after, refusal,
        instantiate_stops_of_checkImports loaded steps limits host refused⟩
    · intro linked links
      have same := Linker.toModule_of_link links
      refine ⟨same ▸ linked.binds, ?_, ?_⟩
      · intro machine runs index imported code value operands top
        have bound : machine.module.callee? index = some (.host .putn) := by
          rw [runs]
          exact linked.callee?_of_imported (same ▸ imported)
        exact ⟨fun next => Machine.step_of_call_putn bound next top,
          fun next => Machine.step_of_returnCall_putn bound next top⟩
      · intro steps limits
        have outcome := outcome_instantiate_of_linked loaded steps limits host links
        refine ⟨outcome, ?_⟩
        intro error after stops
        rw [HostM.Stops, outcome] at stops
        exact onlyRejects_installation steps limits linked _ error after stops

/-- A module that imports the host function twice, the second time as a memory. -/
def mixedImports : ByteArray :=
  ⟨#[0, 97, 115, 109, 1, 0, 0, 0, 1, 5, 1, 96, 1, 127, 0, 2, 30, 2, 3, 101, 110, 118, 7, 106, 115,
    95, 112, 117, 116, 110, 0, 0, 3, 101, 110, 118, 7, 106, 115, 95, 112, 117, 116, 110, 2, 0, 1]⟩

section

open PlainEngine

/-- The second import is refused after the first one was logged, and the growing module is
linked. -/
theorem mixedImports_refused :
    (∃ m stop after, Module.load? mixedImports = some m ∧ (∃ item ∈ m.imports, ¬item.IsPutn) ∧
        ImportRefusal m.imports.toList
          (Host.compiling { sink := ({} : Recorder) } {} mixedImports.size) stop after ∧
        (instantiate 10 {} mixedImports).Stops { sink := ({} : Recorder) } stop after) ∧
      ∃ m linked, Module.load? growingModule = some m ∧ (∀ item ∈ m.imports, item.IsPutn) ∧
        Linker.offering.link m = .ok linked ∧ linked.Binds m := by
  have mixed : (Module.load? mixedImports).any
      (fun m => decide (∃ item ∈ m.imports.toList, ¬item.IsPutn)) = true := by
    decide +kernel
  have good : (Module.load? growingModule).any
      (fun m => decide (∀ item ∈ m.imports.toList, item.IsPutn)) = true := by
    decide +kernel
  refine ⟨?_, ?_⟩
  · rcases (Option.any_eq_true _ _).mp mixed with ⟨m, loaded, bad⟩
    have someBad : ∃ item ∈ m.imports, ¬item.IsPutn := by simpa using bad
    rcases ((import_check_exact { sink := ({} : Recorder) }).2.2 _ m loaded).1 someBad 10 {} with
      ⟨stop, after, refusal, refused⟩
    exact ⟨m, stop, after, loaded, someBad, refusal, refused⟩
  · rcases (Option.any_eq_true _ _).mp good with ⟨m, loaded, all⟩
    have allGood : ∀ item ∈ m.imports, item.IsPutn := by simpa using all
    rcases (import_check_exact { sink := ({} : Recorder) }).2.2 _ m loaded with
      ⟨_, agrees, whenLinked⟩
    rcases agrees.mp allGood with ⟨linked, links⟩
    exact ⟨m, linked, loaded, allGood, links, (whenLinked linked links).1⟩

end

end WasmHost
