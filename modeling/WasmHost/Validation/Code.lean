import WasmHost.Validation.Operands
import WasmHost.Module

/-!
# Checking instructions

Most instructions have one type in their context, given by `Context.plainType?`; the others are the
control instructions, and those whose type depends on the operands found.
-/

namespace WasmHost

/-- What the code of a function may refer to. `declared` lists the functions that may be turned into
references, and `labels` the types that a branch to each enclosing block takes, innermost first. -/
structure Context where
  funcs : Array FuncType := #[]
  tables : Array TableType := #[]
  memories : Array MemoryType := #[]
  globals : Array GlobalType := #[]
  elems : Array ValType := #[]
  dataCount : Option Nat := none
  declared : List Nat := []
  locals : Array ValType := #[]
  results : List ValType := []
  labels : List (List ValType) := []

namespace Context

variable (context : Context)

/-- The memory that an access of `bytes` bytes goes to, if its alignment is at most its size and its
offset is an address of that memory. -/
def accessed? (bytes : Nat) (arg : MemArg) : Option MemoryType := do
  let memory ← context.memories[arg.memory]?
  guard (powerOfTwo arg.align ≤ bytes)
  guard (memory.index = .i64 ∨ arg.offset < UInt32.size)
  pure memory

/-- A table of functions, which an indirect call goes through. -/
def callTable? (table : Nat) : Option TableType := do
  let type ← context.tables[table]?
  guard (type.element = .funcref)
  pure type

/-- The data segment of the given index is announced. -/
def hasData (data : Nat) : Bool :=
  context.dataCount.any (data < ·)

/-- The type of an instruction whose type depends on its context alone. -/
def plainType? : Instr → Option FuncType
  | .nop => some {}
  | .call func => context.funcs[func]?
  | .callIndirect table type => do
    let tableType ← context.callTable? table
    pure ⟨type.params ++ [tableType.index.valType], type.results⟩
  | .localGet index => do
    let type ← context.locals[index]?
    pure ⟨[], [type]⟩
  | .localSet index => do
    let type ← context.locals[index]?
    pure ⟨[type], []⟩
  | .localTee index => do
    let type ← context.locals[index]?
    pure ⟨[type], [type]⟩
  | .globalGet index => do
    let global ← context.globals[index]?
    pure ⟨[], [global.type]⟩
  | .globalSet index => do
    let global ← context.globals[index]?
    guard global.isMutable
    pure ⟨[global.type], []⟩
  | .const (.i32 _) => some ⟨[], [.i32]⟩
  | .const (.i64 _) => some ⟨[], [.i64]⟩
  | .const (.f32 _) => some ⟨[], [.f32]⟩
  | .const (.f64 _) => some ⟨[], [.f64]⟩
  | .numeric op => some ⟨op.operands.map .num, [.num op.result]⟩
  | .load op arg => do
    let memory ← context.accessed? op.bytes arg
    pure ⟨[memory.index.valType], [.num op.type]⟩
  | .store op arg => do
    let memory ← context.accessed? op.bytes arg
    pure ⟨[memory.index.valType, .num op.type], []⟩
  | .memorySize index => do
    let memory ← context.memories[index]?
    pure ⟨[], [memory.index.valType]⟩
  | .memoryGrow index => do
    let memory ← context.memories[index]?
    pure ⟨[memory.index.valType], [memory.index.valType]⟩
  | .memoryFill index => do
    let memory ← context.memories[index]?
    pure ⟨[memory.index.valType, .i32, memory.index.valType], []⟩
  | .memoryCopy target source => do
    let target ← context.memories[target]?
    let source ← context.memories[source]?
    pure ⟨[target.index.valType, source.index.valType,
      (target.index.narrower source.index).valType], []⟩
  | .memoryInit index data => do
    let memory ← context.memories[index]?
    guard (context.hasData data)
    pure ⟨[memory.index.valType, .i32, .i32], []⟩
  | .dataDrop data => do
    guard (context.hasData data)
    pure {}
  | .tableGet index => do
    let table ← context.tables[index]?
    pure ⟨[table.index.valType], [table.element]⟩
  | .tableSet index => do
    let table ← context.tables[index]?
    pure ⟨[table.index.valType, table.element], []⟩
  | .tableSize index => do
    let table ← context.tables[index]?
    pure ⟨[], [table.index.valType]⟩
  | .tableGrow index => do
    let table ← context.tables[index]?
    pure ⟨[table.element, table.index.valType], [table.index.valType]⟩
  | .tableFill index => do
    let table ← context.tables[index]?
    pure ⟨[table.index.valType, table.element, table.index.valType], []⟩
  | .tableCopy target source => do
    let target ← context.tables[target]?
    let source ← context.tables[source]?
    guard (target.element = source.element)
    pure ⟨[target.index.valType, source.index.valType,
      (target.index.narrower source.index).valType], []⟩
  | .tableInit index elem => do
    let table ← context.tables[index]?
    let element ← context.elems[elem]?
    guard (table.element = element)
    pure ⟨[table.index.valType, .i32, .i32], []⟩
  | .elemDrop elem => do
    let _ ← context.elems[elem]?
    pure {}
  | .refNull heap => some ⟨[], [.ref true heap]⟩
  | .refFunc func => do
    let _ ← context.funcs[func]?
    guard (func ∈ context.declared)
    pure ⟨[], [.funcref]⟩
  | _ => none

/-- The stack after a choice between two operands of one type, which are no references unless the
instruction names the type. -/
def select (type : Option ValType) (operands : Operands) : Option Operands := do
  let operands ← operands.pop .i32
  match type with
  | some type => operands.apply ⟨[type, type], [type]⟩
  | none =>
    let (second, operands) ← operands.popAny
    let (first, operands) ← operands.popAny
    let isPlain (type : Option ValType) : Bool := type.all (!·.isRef)
    guard (isPlain first ∧ isPlain second)
    match first, second with
    | some first, some second =>
      guard (first = second)
      pure { operands with known := some first :: operands.known }
    | some type, none => pure { operands with known := some type :: operands.known }
    | none, type => pure { operands with known := type :: operands.known }

/-- The stack after a branch to one of several blocks, all of which take as many operands. -/
def branchTable (labels : Array Nat) (otherwise : Nat) (operands : Operands) : Option Operands := do
  let operands ← operands.pop .i32
  let last ← context.labels[otherwise]?
  let operands ← labels.toList.foldlM (fun operands label => do
    let types ← context.labels[label]?
    guard (types.length = last.length)
    operands.review types) operands
  let _ ← operands.popAll last
  pure .afterJump

/-- The stack after a call in place of a return. -/
def tailCall (type : FuncType) (params : List ValType) (operands : Operands) : Option Operands := do
  guard (type.results = context.results)
  let _ ← operands.popAll params
  pure .afterJump

/-- The context of the code inside a block, where a branch to the block takes `label`. -/
def inside (label : List ValType) : Context :=
  { context with labels := label :: context.labels }

/-- The stack after a test of a reference. -/
def isNull (operands : Operands) : Option Operands := do
  let (type, operands) ← operands.popAny
  guard (type.all (·.isRef))
  pure (operands.push .i32)

mutual

/-- The stack after an instruction, if it is well typed. -/
def checkInstr (context : Context) : Instr → Operands → Option Operands
  | .unreachable, _ => some .afterJump
  | .block type body, operands =>
    if type.isResult (checkInstrs (context.inside type.results) body type.entry) then
      operands.apply type
    else none
  | .loop type body, operands =>
    if type.isResult (checkInstrs (context.inside type.params) body type.entry) then
      operands.apply type
    else none
  | .ite type thenBody elseBody, operands =>
    if type.isResult (checkInstrs (context.inside type.results) thenBody type.entry)
        && type.isResult (checkInstrs (context.inside type.results) elseBody type.entry) then
      (operands.pop .i32).bind (·.apply type)
    else none
  | .br label, operands => do
    let types ← context.labels[label]?
    let _ ← operands.popAll types
    pure .afterJump
  | .brIf label, operands => do
    let operands ← operands.pop .i32
    let types ← context.labels[label]?
    operands.apply ⟨types, types⟩
  | .brTable labels otherwise, operands => context.branchTable labels otherwise operands
  | .ret, operands => do
    let _ ← operands.popAll context.results
    pure .afterJump
  | .returnCall func, operands => do
    let type ← context.funcs[func]?
    context.tailCall type type.params operands
  | .returnCallIndirect table type, operands => do
    let tableType ← context.callTable? table
    context.tailCall type (type.params ++ [tableType.index.valType]) operands
  | .drop, operands => do
    let (_, operands) ← operands.popAny
    pure operands
  | .select type, operands => select type operands
  | .refIsNull, operands => isNull operands
  | instr, operands => do
    let type ← context.plainType? instr
    operands.apply type
termination_by structural instr => instr

/-- The stack after a row of instructions, if they are well typed. -/
def checkInstrs (context : Context) : List Instr → Operands → Option Operands
  | [], operands => some operands
  | instr :: rest, operands =>
    match context.checkInstr instr operands with
    | some operands => context.checkInstrs rest operands
    | none => none
termination_by structural instrs => instrs

end

/-- Whether a function is well typed. -/
def checkFunc (func : Func) : Bool :=
  let inside := { context with
    locals := func.type.params.toArray ++ func.locals
    results := func.type.results
    labels := [func.type.results] }
  func.type.isResult (inside.checkInstrs func.body {})

/-- The type of a constant instruction. Only constant imported globals are known at
instantiation. -/
def constType? (importedGlobals : Nat) : ConstInstr → Option FuncType
  | .value value => context.plainType? (.const value)
  | .null heap => some ⟨[], [.ref true heap]⟩
  | .func index => do
    let _ ← context.funcs[index]?
    pure ⟨[], [.funcref]⟩
  | .global index => do
    guard (index < importedGlobals)
    let global ← context.globals[index]?
    guard !global.isMutable
    pure ⟨[], [global.type]⟩
  | .combine op => some ⟨op.operands.map .num, [.num op.result]⟩

/-- Whether a constant expression yields one value of the given type. -/
def checkConst (importedGlobals : Nat) (type : ValType) (items : ConstExpr) : Bool :=
  let step (operands : Operands) (item : ConstInstr) : Option Operands := do
    let type ← context.constType? importedGlobals item
    operands.apply type
  match items.foldlM step {} with
  | some operands => operands.finishes [type]
  | none => false

end Context

end WasmHost
