import WasmHost.Types

/-!
# Types of the operand stack

While a body is checked, the stack is known only by the types on it. After an instruction that never
continues, the code that follows is checked against a stack that yields operands of any type for
ever: such an operand has an unknown type, which agrees with every type.
-/

namespace WasmHost

/-- The types on the operand stack of one block, top first. -/
structure Operands where
  known : List (Option ValType) := []
  bottomless : Bool := false
  deriving DecidableEq, Repr

namespace Operands

/-- The stack after an instruction that never continues. -/
def afterJump : Operands :=
  ⟨[], true⟩

/-- Takes an operand of any type; the type is `none` where it is unknown. -/
def popAny : Operands → Option (Option ValType × Operands)
  | ⟨type :: known, bottomless⟩ => some (type, ⟨known, bottomless⟩)
  | ⟨[], true⟩ => some (none, ⟨[], true⟩)
  | ⟨[], false⟩ => none

/-- Takes an operand of the given type and tells the type that was found. -/
def popFound (operands : Operands) (type : ValType) : Option (Option ValType × Operands) :=
  match operands.popAny with
  | some (none, rest) => some (none, rest)
  | some (some found, rest) => if found = type then some (some found, rest) else none
  | none => none

/-- Takes an operand of the given type. -/
def pop (operands : Operands) (type : ValType) : Option Operands :=
  (operands.popFound type).map (·.2)

/-- Takes operands of the given types, of which the last is on top. -/
def popAll (operands : Operands) (types : List ValType) : Option Operands :=
  types.reverse.foldlM pop operands

def push (operands : Operands) (type : ValType) : Operands :=
  { operands with known := some type :: operands.known }

/-- Adds operands of the given types, the last one on top. -/
def pushAll (operands : Operands) (types : List ValType) : Operands :=
  { operands with known := types.reverse.map some ++ operands.known }

/-- Takes the parameters of a function type and adds its results. -/
def apply (operands : Operands) (type : FuncType) : Option Operands :=
  (operands.popAll type.params).map (·.pushAll type.results)

/-- Takes operands of the given types and puts back what was found, so that an unknown type stays
unknown. -/
def review (operands : Operands) (types : List ValType) : Option Operands :=
  go types.reverse operands []
where
  /-- The types found so far, deepest one first. -/
  go : List ValType → Operands → List (Option ValType) → Option Operands
    | [], operands, found => some { operands with known := found.reverse ++ operands.known }
    | type :: types, operands, found =>
      match operands.popFound type with
      | some (type, rest) => go types rest (type :: found)
      | none => none

/-- Whether the operands at the end of a block are exactly its results. -/
def finishes (operands : Operands) (results : List ValType) : Bool :=
  match operands.popAll results with
  | some rest => rest.known.isEmpty
  | none => false

end Operands

namespace FuncType

/-- The operands at the beginning of a block: its parameters. -/
def entry (type : FuncType) : Operands :=
  ({} : Operands).pushAll type.params

/-- Whether the code of a block is well typed and leaves the block's results. -/
def isResult (type : FuncType) : Option Operands → Bool
  | some operands => operands.finishes type.results
  | none => false

end FuncType

end WasmHost
