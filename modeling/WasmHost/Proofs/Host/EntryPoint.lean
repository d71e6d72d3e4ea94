import Mathlib
import WasmHost.Proofs.Host.Linking

/-!
# The look-up of entry points

An entry point is looked up among the exports. This file relates the look-up to the types in the
module: it finds a function exactly if the module exports one of a type without parameters. Since
the names of exports are unique in a valid module, the first export of a name is the only one.
-/

namespace WasmHost

namespace Module

variable {m : Module} {bytes : ByteArray}

theorem nodup_exports (loaded : load? bytes = some m) : (m.exports.toList.map (·.name)).Nodup := by
  have valid := isValid_of_load? loaded
  simp only [isValid, Bool.and_eq_true, decide_eq_true_eq] at valid
  exact valid.1.1.1.1.1.2

/-- An export under the name is a function of this type, which has no parameters. -/
inductive Enters (m : Module) (name : String) (type : FuncType) : Prop
  | intro {index : Nat} (exported : ⟨name, .func index⟩ ∈ m.exports)
      (declared : m.funcTypes[index]? = some type) (noParams : type.params = [])

theorem export?_eq_some_of_mem (loaded : load? bytes = some m) {item : Export}
    (exported : item ∈ m.exports) : m.export? item.name = some item := by
  have names := nodup_exports loaded
  have listed : item ∈ m.exports.toList := by simpa using exported
  rw [export?]
  generalize m.exports.toList = items at names listed
  induction items with
  | nil => simp at listed
  | cons first rest ih =>
      rw [List.map_cons, List.nodup_cons] at names
      rcases List.mem_cons.mp listed with rfl | later
      · simp
      · have other : first.name ≠ item.name := by
          intro same
          exact names.1 (same ▸ List.mem_map_of_mem later)
        simpa [other] using ih names.2 later

end Module

namespace LinkedModule

variable {m : LinkedModule} {bytes : ByteArray} {name : String}

theorem EntryPoint.exported {func : Func} (found : m.EntryPoint name func) :
    ∃ index, ⟨name, .func index⟩ ∈ m.exports ∧ m.callee? index = some (.defined func) := by
  rcases found with @⟨⟨itemName, kind⟩, index, _, exported, isFunc, defined, _⟩
  have named : itemName = name := by simpa using List.find?_some exported
  have listed : (⟨itemName, kind⟩ : Export) ∈ m.exports := by
    simpa using List.mem_of_find?_eq_some exported
  cases named
  cases isFunc
  exact ⟨index, listed, defined⟩

theorem EntryPoint.params_eq_nil {func : Func} (found : m.EntryPoint name func) :
    func.type.params = [] := by
  rcases found with ⟨_, _, _, noParams⟩
  exact noParams

/-- The function that the look-up finds is the one that the exports and types tell of. -/
theorem enters_iff (loaded : Module.load? bytes = some m.toModule) {type : FuncType} :
    m.Enters name type ↔ ∃ func, m.EntryPoint name func ∧ func.type = type := by
  constructor
  · rintro ⟨exported, declared, noParams⟩
    rcases m.exists_callee declared with ⟨⟨⟩ | func, found, rfl⟩
    · simp [Callee.type, HostFunc.type] at noParams
    · exact ⟨func, ⟨Module.export?_eq_some_of_mem loaded exported, rfl, found, noParams⟩, rfl⟩
  · rintro ⟨func, found, rfl⟩
    rcases found.exported with ⟨index, listed, defined⟩
    exact ⟨listed, m.funcTypes_of_callee? defined, found.params_eq_nil⟩

theorem EntryPoint.mem_funcs {func : Func} (entry : m.EntryPoint name func) : func ∈ m.funcs := by
  rcases entry with ⟨_, _, defined, _⟩
  exact mem_funcs_of_callee? defined

end LinkedModule

end WasmHost
