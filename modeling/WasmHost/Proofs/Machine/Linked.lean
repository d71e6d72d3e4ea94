import Mathlib
import WasmHost.Machine.State

/-!
# Linked modules

A linked module has a host function for each of its imports, of the type that the import asks for.
So nothing but functions is imported. The types that validation assumes of functions, tables,
memories and globals are those of the entities that the machine has under the same indices.
-/

namespace WasmHost.LinkedModule

variable (m : LinkedModule)

theorem size_bound : m.bound.size = m.imports.size := by
  have sizes := congrArg Array.size m.fits
  rw [Array.size_map, Array.size_map] at sizes
  exact sizes.symm

/-- There is one host function, so the imports of a module leave no choice. -/
theorem eq_of_toModule_eq {m other : LinkedModule} (same : m.toModule = other.toModule) :
    m = other := by
  have sizes : m.bound.size = other.bound.size := by
    rw [m.size_bound, other.size_bound, same]
  have bound : m.bound = other.bound := by
    apply Array.ext sizes
    intro index _ _
    cases m.bound[index]
    cases other.bound[index]
    rfl
  rcases m with ⟨module, functions, fits⟩
  rcases other with ⟨otherModule, otherFunctions, otherFits⟩
  cases same
  cases bound
  rfl

theorem imports_types :
    m.imports.toList.map Import.type = m.bound.toList.map fun func => .func func.type := by
  rw [← Array.toList_map, m.fits, Array.toList_map]

/-- What is selected from the imports by their types is selected from functions. -/
theorem filterMap_imports {α : Type} (select : ImportType → Option α) :
    m.imports.toList.filterMap (fun item => select item.type)
      = m.bound.toList.filterMap fun func => select (.func func.type) := by
  calc
    m.imports.toList.filterMap (fun item => select item.type)
        = (m.imports.toList.map Import.type).filterMap select := by
      rw [List.filterMap_map]
      rfl
    _ = m.bound.toList.filterMap fun func => select (.func func.type) := by
      rw [m.imports_types, List.filterMap_map]
      rfl

theorem filterMap_imports_eq_nil {α : Type} {select : ImportType → Option α}
    (noFunction : ∀ type, select (.func type) = none) :
    m.imports.toList.filterMap (fun item => select item.type) = [] := by
  simp [m.filterMap_imports, noFunction]

theorem funcTypes_eq : m.funcTypes
    = (m.bound.toList.map HostFunc.type ++ m.funcs.toList.map (·.type)).toArray := by
  have imported : m.importedFuncs = m.bound.toList.map HostFunc.type := by
    rw [Module.importedFuncs, m.filterMap_imports ImportType.func?]
    exact congrFun List.filterMap_eq_map m.bound.toList
  rw [Module.funcTypes, imported]

/-- The types that validation assumes of functions are those of the functions called. -/
theorem funcTypes_getElem? (index : Nat) :
    m.funcTypes[index]? = (m.callee? index).map Callee.type := by
  rw [m.funcTypes_eq, callee?, List.getElem?_toArray]
  by_cases imported : index < m.bound.size
  · rw [List.getElem?_append_left (by simpa using imported)]
    simp [imported, Callee.type]
  · rw [List.getElem?_append_right (by simpa using imported)]
    have absent : m.bound[index]? = none := by simpa using imported
    simp [absent, Function.comp_def, Callee.type]

theorem funcTypes_of_callee? {index : Nat} {callee : Callee}
    (found : m.callee? index = some callee) :
    m.funcTypes[index]? = some callee.type := by
  rw [m.funcTypes_getElem?, found, Option.map_some]

theorem exists_callee {index : Nat} {type : FuncType} (declared : m.funcTypes[index]? = some type) :
    ∃ callee, m.callee? index = some callee ∧ callee.type = type := by
  rw [m.funcTypes_getElem?] at declared
  exact Option.map_eq_some_iff.mp declared

theorem mem_funcs_of_callee? {m : LinkedModule} {index : Nat} {func : Func}
    (found : m.callee? index = some (.defined func)) : func ∈ m.funcs := by
  simp only [callee?] at found
  split at found
  · simp at found
  · rcases Option.map_eq_some_iff.mp found with ⟨other, present, same⟩
    cases same
    exact Array.mem_of_getElem? present

theorem tableTypes_eq : m.tableTypes = m.tables := by
  have nothing : m.importedTables = [] := m.filterMap_imports_eq_nil fun _ => rfl
  simp [Module.tableTypes, nothing]

theorem memoryTypes_eq : m.memoryTypes = m.memories := by
  have nothing : m.importedMemories = [] := m.filterMap_imports_eq_nil fun _ => rfl
  simp [Module.memoryTypes, nothing]

theorem importedGlobals_eq_nil : m.importedGlobals = [] :=
  m.filterMap_imports_eq_nil fun _ => rfl

theorem globalTypes_eq : m.globalTypes = m.globals.map (·.type) := by
  rw [Module.globalTypes, m.importedGlobals_eq_nil]
  simp [← Array.toList_map]

end WasmHost.LinkedModule
