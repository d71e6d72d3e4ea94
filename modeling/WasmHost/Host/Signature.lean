import WasmHost.Host.Error
import WasmHost.Machine.State

/-!
# Host functions and the import check

A module may import one function, `env::js_putn`, which takes a number and returns nothing. The
check goes through the imports in order and stops at the first one that is anything else.
-/

namespace WasmHost

/-- A function that the host offers to modules. -/
structure HostSignature where
  module : String
  name : String
  params : List NumType := []
  results : List NumType := []
  deriving DecidableEq, Repr

namespace HostSignature

/-- The name of a scalar type in a signature. -/
def kindText : NumType → String
  | .i32 => "i32"
  | .i64 => "i64"
  | .f32 => "f32"
  | .f64 => "f64"

/-- The spelling of a signature, such as `(func (param i32))`. -/
def text (signature : HostSignature) : String :=
  FuncType.render (signature.params.map kindText) (signature.results.map kindText)

/-- Whether a scalar type is the given value type. -/
def sameType : NumType → ValType → Bool
  | kind, .num type => kind = type
  | _, _ => false

/-- Whether two lists of types agree, type by type. -/
def sameTypes (kinds : List NumType) (types : List ValType) : Bool :=
  types.length = kinds.length && (kinds.zip types).all fun pair => sameType pair.1 pair.2

/-- Whether a function type is that of the signature. -/
def accepts (signature : HostSignature) (type : FuncType) : Bool :=
  sameTypes signature.params type.params && sameTypes signature.results type.results

/-- The function that prints a number. -/
def putn : HostSignature where
  module := "env"
  name := "js_putn"
  params := [.i32]

/-- The functions that the host offers. -/
def offered : List HostSignature :=
  [putn]

end HostSignature

/-- Why the host does not provide an import. -/
inductive ImportFault
  | unknownName
  | wrongType (offered : HostSignature) (expected : FuncType)
  | notFunction (offered : HostSignature) (kind : String)
  deriving DecidableEq, Repr

def ImportFault.detail : ImportFault → String
  | unknownName => "no host function is provided under this name"
  | wrongType offered expected =>
    "signature mismatch: host provides " ++ offered.text ++ ", module expects " ++ expected.text
  | notFunction offered kind =>
    "host provides " ++ offered.text ++ ", module expects a " ++ kind ++ " import"

/-- The name of the kind of an imported entity. -/
def ImportType.kind : ImportType → String
  | func _ => "function"
  | table _ => "table"
  | memory _ => "memory"
  | global _ => "global"

namespace Import

/-- The host function under the name of an import. -/
def offer? (item : Import) : Option HostSignature :=
  HostSignature.offered.find? fun s => s.module = item.module ∧ s.name = item.name

/-- What is wrong with an import, if anything is. -/
def fault? (item : Import) : Option ImportFault :=
  match item.offer? with
  | none => some .unknownName
  | some signature =>
    match item.type with
    | .func type => if signature.accepts type then none else some (.wrongType signature type)
    | other => some (.notFunction signature other.kind)

/-- The error that reports a faulty import. -/
def unresolved (item : Import) (fault : ImportFault) : Error :=
  .importUnresolved item.module item.name fault.detail

end Import

end WasmHost
