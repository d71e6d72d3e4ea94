import WasmHost.Host.Signature

/-!
# Linking

The engine binds the imports of a module to functions that were defined under their names. A name
can be defined only once, and a function is bound only to an import that asks for a function of just
its type. The linker knows nothing of the import check, which goes by the signatures that the host
declares.
-/

namespace WasmHost

/-- A host function under the name by which modules import it. -/
structure Definition where
  module : String
  name : String
  func : HostFunc
  deriving DecidableEq, Repr

/-- The functions that imports can be bound to. -/
structure Linker where
  definitions : List Definition := []
  deriving DecidableEq, Repr

namespace Linker

def find? (linker : Linker) (module name : String) : Option HostFunc :=
  (linker.definitions.find? fun d => d.module = module ∧ d.name = name).map (·.func)

/-- Defines a function under a name that is still free. -/
def define (linker : Linker) (module name : String) (func : HostFunc) : Except Refusal Linker :=
  match linker.find? module name with
  | some _ => .error (.definedTwice module name)
  | none => .ok ⟨⟨module, name, func⟩ :: linker.definitions⟩

/-- The function that an import is bound to, which has its type. -/
def resolve (linker : Linker) (item : Import) :
    Except Refusal { func : HostFunc // item.type = .func func.type } :=
  match linker.find? item.module item.name with
  | none => .error (.unknownImport item.module item.name)
  | some func =>
    if same : item.type = .func func.type then .ok ⟨func, same⟩
    else .error (.incompatibleImport item.module item.name)

/-- The functions that imports are bound to, one after the other. -/
def resolveAll (linker : Linker) : (items : List Import) →
    Except Refusal { bound : List HostFunc //
      items.map Import.type = bound.map fun func => .func func.type }
  | [] => .ok ⟨[], rfl⟩
  | item :: rest =>
    match linker.resolve item, resolveAll linker rest with
    | .error refusal, _ => .error refusal
    | .ok _, .error refusal => .error refusal
    | .ok ⟨func, same⟩, .ok ⟨bound, fits⟩ => .ok ⟨func :: bound, by simp [same, fits]⟩

/-- Binds the imports of a module. -/
def link (linker : Linker) (m : Module) : Except Refusal LinkedModule :=
  match linker.resolveAll m.imports.toList with
  | .error refusal => .error refusal
  | .ok ⟨bound, fits⟩ =>
    .ok { m with bound := bound.toArray, fits := Array.toList_inj.mp (by simpa using fits) }

end Linker

end WasmHost
