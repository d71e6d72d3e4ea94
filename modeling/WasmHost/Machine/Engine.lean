import WasmHost.Machine.State

/-!
# What is left to the engine

The instruction set does not say how much memory there is, how deep calls may go, or in which words
an engine refuses what it cannot do. All of that is a parameter here. What is proved holds for every
engine, as long as no memory of 2^63 bytes or more is provided. Two runs that are compared have the
same engine.
-/

namespace WasmHost

/-- What an engine refuses in words of its own. -/
inductive Refusal
  | invalid (bytes : ByteArray)
  | definedTwice (module name : String)
  | unknownImport (module name : String)
  | incompatibleImport (module name : String)
  | sharedMemory
  | memory (bytes : Nat)
  | table (elements : Nat)
  | arguments (expected given : Nat)
  | results (expected given : Nat)

/-- The size in bytes from which on no engine provides a memory. -/
def memoryBound : Nat := powerOfTwo 63

/-- An engine: whether it provides a memory of so many bytes or a table of so many elements, whether
it has the stack for a call from a given state, what it says of the place of an error in code,
outermost first, and how it words a refusal. -/
class Engine where
  providesMemory : (bytes : Nat) → Bool
  lt_of_providesMemory : ∀ bytes, providesMemory bytes = true → bytes < memoryBound
  providesTable : (elements : Nat) → Bool
  admitsCall : Machine → Func → Bool
  backtrace : Machine → List String
  wording : Refusal → String

namespace Engine

/-- The greatest size that a growth is asked for, a page below what a 64-bit word counts. -/
def greatestRequest : Nat := UInt64.size - pageSize

end Engine

namespace PlainEngine

def wording : Refusal → String
  | .invalid _ => "the module is not valid"
  | .definedTwice module name => "import of " ++ module ++ "::" ++ name ++ " defined twice"
  | .unknownImport module name =>
    "unknown import: " ++ module ++ "::" ++ name ++ " has not been defined"
  | .incompatibleImport module name => "incompatible import type for " ++ module ++ "::" ++ name
  | .sharedMemory => "shared memories are not supported"
  | .memory bytes => "no room for " ++ toString bytes ++ " bytes"
  | .table elements => "no room for " ++ toString elements ++ " elements"
  | .arguments expected given =>
    "expected " ++ toString expected ++ " arguments, got " ++ toString given
  | .results expected given =>
    "expected " ++ toString expected ++ " results, got " ++ toString given

/-- The engine that the program runs with: memories of less than 2^47 bytes, tables of less than
2^44 elements, 10000 calls that wait for one another, and nothing said of places in code. -/
scoped instance engine : Engine where
  providesMemory bytes := bytes < powerOfTwo 47
  lt_of_providesMemory bytes provided :=
    Nat.lt_of_lt_of_le (of_decide_eq_true provided) (by decide)
  providesTable elements := elements < powerOfTwo 44
  admitsCall machine _ := machine.depth < 10000
  backtrace _ := []
  wording := wording

end PlainEngine

end WasmHost
