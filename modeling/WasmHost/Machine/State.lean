import WasmHost.Machine.Memory
import WasmHost.Module

/-!
# States of the machine

A machine runs the code of one module over a store. It is a flat machine: a frame holds the code
that is left in the innermost block, and each enclosing block is a label that says where to go on.
The operands of the blocks around stay with their labels, so a branch keeps the operands that it
carries and forgets the rest.
-/

namespace WasmHost

/-- A table of references: how many it has, and which. Places that were never written hold null. -/
structure Table where
  type : TableType
  size : Nat
  elements : Sparse Ref := { rest := .null }

namespace Table

/-- The reference at an index, if the table is that long. -/
def get? (table : Table) (i : Nat) : Option Ref :=
  if i < table.size then some (table.elements.get i) else none

/-- Writes `n` references from an index on, the `i`-th one being `value i`. -/
def write (table : Table) (start n : Nat) (value : Nat → Ref) : Table :=
  { table with elements := table.elements.write start n value }

/-- Sets `n` references from an index on to one reference. -/
def fill (table : Table) (start n : Nat) (ref : Ref) : Table :=
  { table with elements := table.elements.fill start n ref }

/-- Copies `n` references of a row from the place `first` there to an index here. -/
def copy (table : Table) (source : Sparse Ref) (first n start : Nat) : Table :=
  { table with elements := table.elements.copy source first n start }

/-- Adds references. -/
def grow (table : Table) (n : Nat) (ref : Ref) : Table :=
  { table with size := table.size + n, elements := table.elements.fill table.size n ref }

end Table

/-- All that code can change apart from its own frames. -/
structure Store where
  memories : Array Memory := #[]
  tables : Array Table := #[]
  globals : Array Value := #[]
  elems : Array (Array Ref) := #[]
  datas : Array ByteArray := #[]

namespace Store

/-- The total size of the memories in bytes. -/
def memoryBytes (store : Store) : Nat :=
  store.memories.toList.foldr (fun memory total => memory.size + total) 0

def updateMemory (store : Store) (index : Nat) (change : Memory → Memory) : Store :=
  { store with memories := store.memories.modify index change }

def updateTable (store : Store) (index : Nat) (change : Table → Table) : Store :=
  { store with tables := store.tables.modify index change }

def setGlobal (store : Store) (index : Nat) (value : Value) : Store :=
  { store with globals := store.globals.setIfInBounds index value }

def dropElem (store : Store) (index : Nat) : Store :=
  { store with elems := store.elems.setIfInBounds index #[] }

def dropData (store : Store) (index : Nat) : Store :=
  { store with datas := store.datas.setIfInBounds index .empty }

end Store

/-- A block being executed: how many operands a branch to it carries, the operands below it, and the
code after it. A branch to a loop starts its body again. -/
structure Label where
  arity : Nat
  below : List Value
  next : List Instr
  again : Option (List Instr) := none

/-- The variables of a call: the values of the first ones, the parameters among them, and the types
of those after the parameters. A variable has the default value of its type until it or one after it
is set. -/
structure Locals where
  params : Nat := 0
  types : Array ValType := #[]
  values : Array Value := #[]

namespace Locals

/-- The variables of a call that starts, given the values of the parameters. -/
def ofArgs (types : Array ValType) (args : List Value) : Locals :=
  ⟨args.length, types, args.toArray⟩

/-- The default value of a variable after the parameters. -/
def default? (locals : Locals) (index : Nat) : Option Value :=
  (locals.types[index - locals.params]?).map Value.default

/-- The value of a variable. -/
def get? (locals : Locals) (index : Nat) : Option Value :=
  match locals.values[index]? with
  | some value => some value
  | none => locals.default? index

/-- Gives `n` more variables their default values. -/
def extend (locals : Locals) : (n : Nat) → Locals
  | 0 => locals
  | n + 1 =>
    match locals.default? locals.values.size with
    | some value => extend { locals with values := locals.values.push value } n
    | none => locals

def set (locals : Locals) (index : Nat) (value : Value) : Locals :=
  match locals.extend (index + 1 - locals.values.size) with
  | ⟨params, types, values⟩ => ⟨params, types, values.setIfInBounds index value⟩

end Locals

/-- A call being executed: the code and operands of its innermost block, top operand first, the
blocks around it, its variables, and how many results it returns. -/
structure Frame where
  code : List Instr
  operands : List Value := []
  labels : List Label := []
  locals : Locals := {}
  arity : Nat := 0

/-- A function that the host defines: there is one, which prints a number. -/
inductive HostFunc
  | putn
  deriving DecidableEq, Repr

/-- The type of a host function, as its own code lays it down. -/
def HostFunc.type : HostFunc → FuncType
  | putn => ⟨[.i32], []⟩

/-- A module with a host function for each of its imports, of the type that the import asks for. -/
structure LinkedModule extends Module where
  bound : Array HostFunc
  fits : imports.map Import.type = bound.map fun func => .func func.type

/-- What a function index stands for: a host function, or a function of the module. -/
inductive Callee
  | host (func : HostFunc)
  | defined (func : Func)

def Callee.type : Callee → FuncType
  | host func => func.type
  | defined func => func.type

/-- The function of the given index; those that imports are bound to come first. -/
def LinkedModule.callee? (m : LinkedModule) (index : Nat) : Option Callee :=
  match m.bound[index]? with
  | some func => some (.host func)
  | none => (m.funcs[index - m.bound.size]?).map .defined

/-- A machine: the module it runs, its store, the running call and the calls that wait for it. -/
structure Machine where
  module : LinkedModule
  store : Store
  frame : Frame
  callers : List Frame := []
  depth : Nat := 0

/-- What the machine asks of its surroundings after a step. Growth needs permission and a call of
the host function is not the machine's own work, so it stops and lets its host go on from the state
given. The results of a call that is done come first one first. -/
inductive Signal
  | next (machine : Machine)
  | done (machine : Machine) (results : List Value)
  | trap (machine : Machine) (trap : Trap)
  | emit (machine : Machine) (value : UInt32)
  | growMemory (machine : Machine) (memory pages : Nat)
  | growTable (machine : Machine) (table n : Nat) (ref : Ref)

namespace Frame

def push (frame : Frame) (value : Value) : Frame :=
  { frame with operands := value :: frame.operands }

/-- Enters a block that takes `params` operands. -/
def enter (frame : Frame) (params arity : Nat) (again : Option (List Instr))
    (body : List Instr) : Frame :=
  { frame with
    code := body
    operands := frame.operands.take params
    labels := ⟨arity, frame.operands.drop params, frame.code, again⟩ :: frame.labels }

/-- Branches to an enclosing block; `none` means out of the function. -/
def branch? (frame : Frame) (label : Nat) : Option Frame :=
  match frame.labels.drop label with
  | [] => none
  | target :: outer =>
    match target.again with
    | none =>
      some { frame with
        code := target.next
        operands := frame.operands.take target.arity ++ target.below
        labels := outer }
    | some body =>
      some { frame with
        code := body
        operands := frame.operands.take target.arity
        labels := target :: outer }

/-- The first frame of a call. -/
def ofCall (func : Func) (args : List Value) : Frame where
  code := func.body
  locals := .ofArgs func.locals args
  arity := func.type.results.length

end Frame

end WasmHost
