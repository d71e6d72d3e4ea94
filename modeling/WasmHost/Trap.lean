/-!
# Traps

The reasons for which execution of a module stops by itself.
-/

namespace WasmHost

/-- Why execution stopped. -/
inductive Trap
  | callStackExhausted
  | memoryOutOfBounds
  | tableOutOfBounds
  | uninitializedElement
  | indirectCallMismatch
  | integerOverflow
  | divideByZero
  | invalidConversion
  | unreachable
  deriving DecidableEq, Repr, Inhabited

/-- What a trap is called in diagnostics. -/
def Trap.description : Trap → String
  | callStackExhausted => "call stack exhausted"
  | memoryOutOfBounds => "out of bounds memory access"
  | tableOutOfBounds => "undefined element: out of bounds table access"
  | uninitializedElement => "uninitialized element"
  | indirectCallMismatch => "indirect call type mismatch"
  | integerOverflow => "integer overflow"
  | divideByZero => "integer divide by zero"
  | invalidConversion => "invalid conversion to integer"
  | unreachable => "wasm `unreachable` instruction executed"

/-- The text of a trap in diagnostics. -/
def Trap.message (trap : Trap) : String :=
  "wasm trap: " ++ trap.description

end WasmHost
