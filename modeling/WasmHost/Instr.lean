import WasmHost.Numeric.Operator

/-!
# Instructions

The instructions of a function body as a tree: a block holds the instructions inside it. Types named
by an index in the binary format are held here as the types themselves, so that an instruction means
the same wherever it stands. Entities of the module are named by their index.

Loads and stores of all widths are one instruction each, described by the scalar type on the stack
and the number of bytes in memory. There are no vector and no atomic instructions.
-/

namespace WasmHost

/-- What a load reads: `bytes` bytes, widened to a scalar of type `type`. -/
structure LoadOp where
  type : NumType
  bytes : Nat
  sign : Signedness := .unsigned
  deriving DecidableEq, Repr

/-- What a store writes: the low `bytes` bytes of a scalar of type `type`. -/
structure StoreOp where
  type : NumType
  bytes : Nat
  deriving DecidableEq, Repr

/-- The memory that an access goes to, what is added to its address, and the power of two that the
address is promised to be a multiple of. -/
structure MemArg where
  memory : Nat := 0
  offset : Nat := 0
  align : Nat := 0
  deriving DecidableEq, Repr

/-- An instruction. -/
inductive Instr
  | unreachable
  | nop
  | block (type : FuncType) (body : List Instr)
  | loop (type : FuncType) (body : List Instr)
  | ite (type : FuncType) (thenBody elseBody : List Instr)
  | br (label : Nat)
  | brIf (label : Nat)
  | brTable (labels : Array Nat) (otherwise : Nat)
  | ret
  | call (func : Nat)
  | callIndirect (table : Nat) (type : FuncType)
  | returnCall (func : Nat)
  | returnCallIndirect (table : Nat) (type : FuncType)
  | drop
  | select (type : Option ValType)
  | localGet (index : Nat)
  | localSet (index : Nat)
  | localTee (index : Nat)
  | globalGet (index : Nat)
  | globalSet (index : Nat)
  | const (value : Value)
  | numeric (op : NumOp)
  | load (op : LoadOp) (arg : MemArg)
  | store (op : StoreOp) (arg : MemArg)
  | memorySize (memory : Nat)
  | memoryGrow (memory : Nat)
  | memoryFill (memory : Nat)
  | memoryCopy (target source : Nat)
  | memoryInit (memory data : Nat)
  | dataDrop (data : Nat)
  | tableGet (table : Nat)
  | tableSet (table : Nat)
  | tableSize (table : Nat)
  | tableGrow (table : Nat)
  | tableFill (table : Nat)
  | tableCopy (target source : Nat)
  | tableInit (table elem : Nat)
  | elemDrop (elem : Nat)
  | refNull (heap : HeapType)
  | refIsNull
  | refFunc (func : Nat)

/-- An instruction of a constant expression. -/
inductive ConstInstr
  | value (value : Value)
  | null (heap : HeapType)
  | func (index : Nat)
  | global (index : Nat)
  | combine (op : NumOp)
  deriving DecidableEq, Repr

/-- An expression whose value is known when the module is instantiated. -/
abbrev ConstExpr := List ConstInstr

namespace ConstInstr

/-- The operators that a constant expression may use: sums, differences and products of integers. -/
def isCombining : NumOp → Bool
  | .intBin _ .add => true
  | .intBin _ .sub => true
  | .intBin _ .mul => true
  | _ => false

/-- Reads an instruction as one of a constant expression. -/
def ofInstr? : Instr → Option ConstInstr
  | .const v => some (value v)
  | .refNull heap => some (null heap)
  | .refFunc index => some (func index)
  | .globalGet index => some (global index)
  | .numeric op => if isCombining op then some (combine op) else none
  | _ => none

end ConstInstr

end WasmHost
