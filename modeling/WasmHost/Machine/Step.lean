import WasmHost.Machine.Engine

/-!
# Steps of the machine

`Machine.step` performs one instruction. It never asks for permission and never calls the host: it
hands such requests out as signals. Code that validation would refuse traps as `unreachable`.
-/

namespace WasmHost

namespace Machine

variable [Engine]

/-- Goes on with other operands. -/
def withOperands (m : Machine) (operands : List Value) : Machine :=
  { m with frame := { m.frame with operands } }

/-- Goes on with other operands and a changed store. -/
def updateStore (m : Machine) (operands : List Value) (change : Store → Store) : Machine :=
  { m with store := change m.store, frame := { m.frame with operands } }

def push (m : Machine) (value : Value) : Machine :=
  { m with frame := m.frame.push value }

/-- Returns from the running call with the operands on top as results. -/
def ret (m : Machine) : Signal :=
  let results := m.frame.operands.take m.frame.arity
  match m.callers with
  | [] => .done m results.reverse
  | caller :: callers =>
    .next { m with
      frame := { caller with operands := results ++ caller.operands }
      callers
      depth := m.depth - 1 }

/-- Goes on after the innermost block, or returns if there is none. -/
def leave (m : Machine) : Signal :=
  match m.frame.labels with
  | [] => m.ret
  | label :: outer =>
    .next { m with frame := { m.frame with
      code := label.next
      operands := m.frame.operands ++ label.below
      labels := outer } }

def branch (m : Machine) (label : Nat) : Signal :=
  match m.frame.branch? label with
  | some frame => .next { m with frame }
  | none => m.ret

/-- Calls a function with the operands on top as arguments. -/
def call (m : Machine) (callee : Callee) : Signal :=
  match callee with
  | .host .putn =>
    match m.frame.operands with
    | .i32 value :: operands => .emit (m.withOperands operands) value
    | _ => .trap m .unreachable
  | .defined func =>
    if Engine.admitsCall m func then
      let n := func.type.params.length
      let args := (m.frame.operands.take n).reverse
      .next { m with
        frame := .ofCall func args
        callers := { m.frame with operands := m.frame.operands.drop n } :: m.callers
        depth := m.depth + 1 }
    else .trap m .callStackExhausted

/-- Calls a function in place of the running call. -/
def tailCall (m : Machine) (callee : Callee) : Signal :=
  match callee with
  | .host .putn =>
    match m.frame.operands with
    | .i32 value :: _ =>
      .emit { m with frame := { m.frame with code := [], labels := [], operands := [] } } value
    | _ => .trap m .unreachable
  | .defined func =>
    let args := (m.frame.operands.take func.type.params.length).reverse
    .next { m with frame := .ofCall func args }

/-- The function that an indirect call goes to: the one at the operand on top of the stack, which
has to be of the given type. -/
def indirectCallee (m : Machine) (table : Nat) (type : FuncType) : Except Trap Callee :=
  match m.frame.operands, m.store.tables[table]? with
  | index :: _, some table =>
    match index.toIndex?.bind table.get? with
    | none => .error .tableOutOfBounds
    | some .null => .error .uninitializedElement
    | some (.func index) =>
      match m.module.callee? index with
      | none => .error .unreachable
      | some callee => if callee.type = type then .ok callee else .error .indirectCallMismatch
  | _, _ => .error .unreachable

def callIndirect (m : Machine) (table : Nat) (type : FuncType) (tail : Bool) : Signal :=
  match m.indirectCallee table type with
  | .error trap => .trap m trap
  | .ok callee =>
    let m := m.withOperands m.frame.operands.tail
    if tail then m.tailCall callee else m.call callee

def load (m : Machine) (op : LoadOp) (arg : MemArg) : Signal :=
  match m.frame.operands, m.store.memories[arg.memory]? with
  | base :: operands, some memory =>
    match base.toIndex? with
    | none => .trap m .unreachable
    | some base =>
      let address := base + arg.offset
      if address + op.bytes ≤ memory.size then
        .next (m.withOperands (op.value (memory.word address op.bytes) :: operands))
      else .trap m .memoryOutOfBounds
  | _, _ => .trap m .unreachable

/-- Whether `n` places from `start` on lie within a memory, if there is one. -/
def memoryHolds (m : Machine) (index start n : Nat) : Bool :=
  match m.store.memories[index]? with
  | some memory => start + n ≤ memory.size
  | none => false

/-- Whether `n` places from `start` on lie within a table, if there is one. -/
def tableHolds (m : Machine) (index start n : Nat) : Bool :=
  match m.store.tables[index]? with
  | some table => start + n ≤ table.size
  | none => false

def storeScalar (m : Machine) (op : StoreOp) (arg : MemArg) : Signal :=
  match m.frame.operands with
  | value :: base :: operands =>
    match base.toIndex?, value.word? with
    | some base, some word =>
      let address := base + arg.offset
      if m.memoryHolds arg.memory address op.bytes then
        .next (m.updateStore operands (·.updateMemory arg.memory (·.write address op.bytes
          fun i => (word >>> (8 * UInt64.ofNat i)).toUInt8)))
      else .trap m .memoryOutOfBounds
    | _, _ => .trap m .unreachable
  | _ => .trap m .unreachable

/-- Takes three operands, the first and the last of which are indices. -/
def indices3? (m : Machine) : Option (Nat × Value × Nat × List Value) :=
  match m.frame.operands with
  | n :: value :: start :: operands =>
    match start.toIndex?, n.toIndex? with
    | some start, some n => some (start, value, n, operands)
    | _, _ => none
  | _ => none

/-- Sets bytes of a memory to one value. -/
def memoryFill (m : Machine) (index : Nat) : Signal :=
  match m.indices3? with
  | some (start, .i32 value, n, operands) =>
    if m.memoryHolds index start n then
      .next (m.updateStore operands (·.updateMemory index (·.fill start n value.toUInt8)))
    else .trap m .memoryOutOfBounds
  | _ => .trap m .unreachable

/-- Copies bytes between memories; the two areas may overlap. -/
def memoryCopy (m : Machine) (target source : Nat) : Signal :=
  match m.indices3?, m.store.memories[source]? with
  | some (start, value, n, operands), some memory =>
    match value.toIndex? with
    | none => .trap m .unreachable
    | some first =>
      if m.memoryHolds target start n && m.memoryHolds source first n then
        let bytes := memory.bytes
        .next (m.updateStore operands (·.updateMemory target (·.copy bytes first n start)))
      else .trap m .memoryOutOfBounds
  | _, _ => .trap m .unreachable

/-- Copies bytes of a data segment into a memory. -/
def memoryInit (m : Machine) (index data : Nat) : Signal :=
  match m.indices3?, m.store.datas[data]? with
  | some (start, value, n, operands), some bytes =>
    match value.toIndex? with
    | none => .trap m .unreachable
    | some first =>
      if m.memoryHolds index start n && first + n ≤ bytes.size then
        .next (m.updateStore operands (·.updateMemory index (·.write start n
          fun i => bytes[first + i]?.getD 0)))
      else .trap m .memoryOutOfBounds
  | _, _ => .trap m .unreachable

def tableGet (m : Machine) (index : Nat) : Signal :=
  match m.frame.operands, m.store.tables[index]? with
  | i :: operands, some table =>
    match i.toIndex?.bind table.get? with
    | some ref => .next (m.withOperands (.ref ref :: operands))
    | none => .trap m .tableOutOfBounds
  | _, _ => .trap m .unreachable

def tableSet (m : Machine) (index : Nat) : Signal :=
  match m.frame.operands with
  | .ref ref :: i :: operands =>
    match i.toIndex? with
    | none => .trap m .unreachable
    | some i =>
      if m.tableHolds index i 1 then
        .next (m.updateStore operands (·.updateTable index (·.fill i 1 ref)))
      else .trap m .tableOutOfBounds
  | _ => .trap m .unreachable

/-- Sets elements of a table to one reference. -/
def tableFill (m : Machine) (index : Nat) : Signal :=
  match m.indices3? with
  | some (start, .ref ref, n, operands) =>
    if m.tableHolds index start n then
      .next (m.updateStore operands (·.updateTable index (·.fill start n ref)))
    else .trap m .tableOutOfBounds
  | _ => .trap m .unreachable

/-- Copies elements between tables; the two areas may overlap. -/
def tableCopy (m : Machine) (target source : Nat) : Signal :=
  match m.indices3?, m.store.tables[source]? with
  | some (start, value, n, operands), some table =>
    match value.toIndex? with
    | none => .trap m .unreachable
    | some first =>
      if m.tableHolds target start n && m.tableHolds source first n then
        let elements := table.elements
        .next (m.updateStore operands (·.updateTable target (·.copy elements first n start)))
      else .trap m .tableOutOfBounds
  | _, _ => .trap m .unreachable

/-- Copies references of an element segment into a table. -/
def tableInit (m : Machine) (index elem : Nat) : Signal :=
  match m.indices3?, m.store.elems[elem]? with
  | some (start, value, n, operands), some items =>
    match value.toIndex? with
    | none => .trap m .unreachable
    | some first =>
      if m.tableHolds index start n && first + n ≤ items.size then
        .next (m.updateStore operands (·.updateTable index (·.write start n
          fun i => items[first + i]?.getD .null)))
      else .trap m .tableOutOfBounds
  | _, _ => .trap m .unreachable

/-- Performs an instruction that works on tables, memories or globals. -/
def execStore (m : Machine) (instr : Instr) : Signal :=
  match instr with
  | .globalGet index =>
    match m.store.globals[index]? with
    | some value => .next (m.push value)
    | none => .trap m .unreachable
  | .globalSet index =>
    match m.frame.operands with
    | value :: operands =>
      .next (m.updateStore operands (·.setGlobal index value))
    | [] => .trap m .unreachable
  | .load op arg => m.load op arg
  | .store op arg => m.storeScalar op arg
  | .memorySize index =>
    match m.store.memories[index]? with
    | some memory => .next (m.push (.ofIndex memory.type.index memory.pages))
    | none => .trap m .unreachable
  | .memoryGrow index =>
    match m.frame.operands with
    | pages :: operands =>
      match pages.toIndex? with
      | some pages => .growMemory (m.withOperands operands) index pages
      | none => .trap m .unreachable
    | [] => .trap m .unreachable
  | .memoryFill index => m.memoryFill index
  | .memoryCopy target source => m.memoryCopy target source
  | .memoryInit index data => m.memoryInit index data
  | .dataDrop data =>
    .next (m.updateStore m.frame.operands (·.dropData data))
  | .tableGet index => m.tableGet index
  | .tableSet index => m.tableSet index
  | .tableSize index =>
    match m.store.tables[index]? with
    | some table => .next (m.push (.ofIndex table.type.index table.size))
    | none => .trap m .unreachable
  | .tableGrow index =>
    match m.frame.operands with
    | n :: .ref ref :: operands =>
      match n.toIndex? with
      | some n => .growTable (m.withOperands operands) index n ref
      | none => .trap m .unreachable
    | _ => .trap m .unreachable
  | .tableFill index => m.tableFill index
  | .tableCopy target source => m.tableCopy target source
  | .tableInit index elem => m.tableInit index elem
  | .elemDrop elem =>
    .next (m.updateStore m.frame.operands (·.dropElem elem))
  | _ => .trap m .unreachable

/-- Performs an instruction; the code left in the frame is what follows it. -/
def exec (m : Machine) (instr : Instr) : Signal :=
  match instr with
  | .unreachable => .trap m .unreachable
  | .nop => .next m
  | .block type body =>
    .next { m with frame := m.frame.enter type.params.length type.results.length none body }
  | .loop type body =>
    .next { m with frame := m.frame.enter type.params.length type.params.length (some body) body }
  | .ite type thenBody elseBody =>
    match m.frame.operands with
    | .i32 condition :: operands =>
      let frame := { m.frame with operands }
      let body := if condition = 0 then elseBody else thenBody
      .next { m with frame := frame.enter type.params.length type.results.length none body }
    | _ => .trap m .unreachable
  | .br label => m.branch label
  | .brIf label =>
    match m.frame.operands with
    | .i32 condition :: operands =>
      let m := m.withOperands operands
      if condition = 0 then .next m else m.branch label
    | _ => .trap m .unreachable
  | .brTable labels otherwise =>
    match m.frame.operands with
    | .i32 index :: operands =>
      (m.withOperands operands).branch (labels.getD index.toNat otherwise)
    | _ => .trap m .unreachable
  | .ret => m.ret
  | .call func =>
    match m.module.callee? func with
    | some callee => m.call callee
    | none => .trap m .unreachable
  | .callIndirect table type => m.callIndirect table type false
  | .returnCall func =>
    match m.module.callee? func with
    | some callee => m.tailCall callee
    | none => .trap m .unreachable
  | .returnCallIndirect table type => m.callIndirect table type true
  | .drop => .next (m.withOperands m.frame.operands.tail)
  | .select _ =>
    match m.frame.operands with
    | .i32 condition :: second :: first :: operands =>
      .next (m.withOperands ((if condition = 0 then second else first) :: operands))
    | _ => .trap m .unreachable
  | .localGet index =>
    match m.frame.locals.get? index with
    | some value => .next (m.push value)
    | none => .trap m .unreachable
  | .localSet index =>
    match m.frame.operands with
    | value :: operands =>
      .next { m with frame := { m.frame with operands, locals := m.frame.locals.set index value } }
    | [] => .trap m .unreachable
  | .localTee index =>
    match m.frame.operands with
    | value :: _ =>
      .next { m with frame := { m.frame with locals := m.frame.locals.set index value } }
    | [] => .trap m .unreachable
  | .const value => .next (m.push value)
  | .numeric op =>
    match op.eval m.frame.operands with
    | .ok operands => .next (m.withOperands operands)
    | .error trap => .trap m trap
  | .refNull _ => .next (m.push (.ref .null))
  | .refIsNull =>
    match m.frame.operands with
    | value :: operands => .next (m.withOperands (.ofBool (value = .ref .null) :: operands))
    | [] => .trap m .unreachable
  | .refFunc func => .next (m.push (.ref (.func func)))
  | instr => m.execStore instr

/-- Performs one step: the next instruction, or the end of a block or of a call. -/
def step (m : Machine) : Signal :=
  match m.frame.code with
  | [] => m.leave
  | instr :: code => { m with frame := { m.frame with code } }.exec instr

end Machine

end WasmHost
