import WasmHost.Binary.Decoder
import WasmHost.Module

/-!
# Reading instructions

Expressions are read by one loop with a list of the blocks that are open, so nested blocks need no
recursion. A type named by an index is looked up at once, which is why the loop is given the
module's types.
-/

namespace WasmHost

namespace Decoder

/-- The function type with the given index. -/
def typeAt (types : Array FuncType) (index : Nat) : Decoder FuncType :=
  match types[index]? with
  | some type => pure type
  | none => failure

/-- The first bytes of value types, which a block type may consist of. -/
def isValTypeByte (b : UInt8) : Bool :=
  b ∈ [0x7F, 0x7E, 0x7D, 0x7C, 0x7B, 0x70, 0x6F, 0x63]

/-- The type of a block: nothing, one result, or a function type by its index. -/
def blockType (types : Array FuncType) : Decoder FuncType := do
  let b ← peek
  if b = 0x40 then
    let _ ← byte
    pure {}
  else if isValTypeByte b then
    let result ← valType
    pure ⟨[], [result]⟩
  else
    let index ← signed 33
    guard (0 ≤ index)
    typeAt types index.toNat

/-- Where a load or store goes. The offset has room for 64 bits whatever the memory. -/
def memArg : Decoder MemArg := do
  let flags ← u32
  let explicit := flags / 64 % 2 = 1
  let align := if explicit then flags - 64 else flags
  let memory ← if explicit then u32 else pure 0
  guard (align < 64)
  let offset ← unsigned 64
  pure { memory, offset, align }

/-- The loads, in the order of their opcodes. -/
def loadOrder : Array LoadOp :=
  #[⟨.i32, 4, .unsigned⟩, ⟨.i64, 8, .unsigned⟩, ⟨.f32, 4, .unsigned⟩, ⟨.f64, 8, .unsigned⟩,
    ⟨.i32, 1, .signed⟩, ⟨.i32, 1, .unsigned⟩, ⟨.i32, 2, .signed⟩, ⟨.i32, 2, .unsigned⟩,
    ⟨.i64, 1, .signed⟩, ⟨.i64, 1, .unsigned⟩, ⟨.i64, 2, .signed⟩, ⟨.i64, 2, .unsigned⟩,
    ⟨.i64, 4, .signed⟩, ⟨.i64, 4, .unsigned⟩]

/-- The stores, in the order of their opcodes. -/
def storeOrder : Array StoreOp :=
  #[⟨.i32, 4⟩, ⟨.i64, 8⟩, ⟨.f32, 4⟩, ⟨.f64, 8⟩, ⟨.i32, 1⟩, ⟨.i32, 2⟩, ⟨.i64, 1⟩, ⟨.i64, 2⟩,
    ⟨.i64, 4⟩]

/-- An instruction whose opcode begins with the byte `0xFC`. -/
def extendedInstr : Decoder Instr := do
  let opcode ← u32
  match opcode with
  | 8 =>
    let data ← u32
    let memory ← u32
    pure (.memoryInit memory data)
  | 9 => Instr.dataDrop <$> u32
  | 10 => Instr.memoryCopy <$> u32 <*> u32
  | 11 => Instr.memoryFill <$> u32
  | 12 =>
    let elem ← u32
    let table ← u32
    pure (.tableInit table elem)
  | 13 => Instr.elemDrop <$> u32
  | 14 => Instr.tableCopy <$> u32 <*> u32
  | 15 => Instr.tableGrow <$> u32
  | 16 => Instr.tableSize <$> u32
  | 17 => Instr.tableFill <$> u32
  | _ =>
    match NumOp.saturatingOrder[opcode]? with
    | some op => pure (.numeric op)
    | none => failure

/-- A type index and a table index, in this order. -/
def indirect (types : Array FuncType) (instr : Nat → FuncType → Instr) : Decoder Instr := do
  let type ← typeAt types (← u32)
  let table ← u32
  pure (instr table type)

/-- The rest of an instruction without a body, after its opcode. The opcodes `0xFD` of vector
instructions and `0xFE` of atomic ones are not among those known here: a module whose code has one
is refused as invalid, also where an engine would run it. -/
def plainInstr (types : Array FuncType) (opcode : UInt8) : Decoder Instr :=
  match opcode with
  | 0x00 => pure .unreachable
  | 0x01 => pure .nop
  | 0x0C => Instr.br <$> u32
  | 0x0D => Instr.brIf <$> u32
  | 0x0E => do
    let n ← u32
    let labels ← replicate n u32
    Instr.brTable labels.toArray <$> u32
  | 0x0F => pure .ret
  | 0x10 => Instr.call <$> u32
  | 0x11 => indirect types .callIndirect
  | 0x12 => Instr.returnCall <$> u32
  | 0x13 => indirect types .returnCallIndirect
  | 0x1A => pure .drop
  | 0x1B => pure (.select none)
  | 0x1C => do
    guard ((← u32) = 1)
    let type ← valType
    pure (.select (some type))
  | 0x20 => Instr.localGet <$> u32
  | 0x21 => Instr.localSet <$> u32
  | 0x22 => Instr.localTee <$> u32
  | 0x23 => Instr.globalGet <$> u32
  | 0x24 => Instr.globalSet <$> u32
  | 0x25 => Instr.tableGet <$> u32
  | 0x26 => Instr.tableSet <$> u32
  | 0x3F => Instr.memorySize <$> u32
  | 0x40 => Instr.memoryGrow <$> u32
  | 0x41 => do pure (.const (.i32 (UInt32.ofInt (← signed 32))))
  | 0x42 => do pure (.const (.i64 (UInt64.ofInt (← signed 64))))
  | 0x43 => do pure (.const (.f32 (UInt32.ofNat (← fixed 4))))
  | 0x44 => do pure (.const (.f64 (UInt64.ofNat (← fixed 8))))
  | 0xD0 => Instr.refNull <$> heapType
  | 0xD1 => pure .refIsNull
  | 0xD2 => Instr.refFunc <$> u32
  | 0xFC => extendedInstr
  | _ =>
    if let some op := NumOp.ofOpcode? opcode then
      pure (.numeric op)
    else if opcode < 0x28 then
      failure
    else if let some op := loadOrder[opcode.toNat - 0x28]? then
      Instr.load op <$> memArg
    else if let some op := storeOrder[opcode.toNat - 0x36]? then
      Instr.store op <$> memArg
    else
      failure

/-- What kind of block is open. -/
inductive Opener
  | block (type : FuncType)
  | loop (type : FuncType)
  | ite (type : FuncType)
  | els (type : FuncType) (thenBody : List Instr)

/-- A block that is open, and the instructions before it in the block around it, last one first. -/
structure OpenBlock where
  opener : Opener
  before : List Instr

/-- The instruction that a block becomes when it ends. -/
def Opener.close (opener : Opener) (body : List Instr) : Instr :=
  match opener with
  | block type => .block type body
  | loop type => .loop type body
  | ite type => .ite type body []
  | els type thenBody => .ite type thenBody body

/-- Reads instructions up to the end of the outermost block; `current` holds those read so far in
the innermost one, last one first. Each instruction takes a byte at least, which bounds their
number. -/
def instrs (types : Array FuncType) :
    (bound : Nat) → (blocks : List OpenBlock) → (current : List Instr) → Decoder (List Instr)
  | 0, _, _ => failure
  | bound + 1, blocks, current => do
    match ← byte with
    | 0x02 => instrs types bound (⟨.block (← blockType types), current⟩ :: blocks) []
    | 0x03 => instrs types bound (⟨.loop (← blockType types), current⟩ :: blocks) []
    | 0x04 => instrs types bound (⟨.ite (← blockType types), current⟩ :: blocks) []
    | 0x05 =>
      match blocks with
      | ⟨.ite type, before⟩ :: outer =>
        instrs types bound (⟨.els type current.reverse, before⟩ :: outer) []
      | _ => failure
    | 0x0B =>
      match blocks with
      | [] => pure current.reverse
      | inner :: outer =>
        instrs types bound outer (inner.opener.close current.reverse :: inner.before)
    | opcode => do
      let instr ← plainInstr types opcode
      instrs types bound blocks (instr :: current)

/-- An expression: instructions up to their end. -/
def expr (types : Array FuncType) : Decoder (List Instr) := fun bytes =>
  instrs types bytes.length [] [] bytes

def constExpr (types : Array FuncType) : Decoder ConstExpr := do
  match (← expr types).mapM ConstInstr.ofInstr? with
  | some items => pure items
  | none => failure

/-- Expands counted groups of local variables, of which a function has at most 50,000. -/
def localTypes (groups : List (Nat × ValType)) : Decoder (List ValType) := do
  guard (groups.foldl (fun total group => total + group.1) 0 ≤ 50000)
  pure (groups.flatMap fun group => List.replicate group.1 group.2)

/-- A function body: local variables and code, in as many bytes as its length says. -/
def body (types : Array FuncType) (type : FuncType) : Decoder Func := do
  let length ← u32
  within length do
    let n ← u32
    let groups ← replicate n (Prod.mk <$> u32 <*> valType)
    let locals ← localTypes groups
    guard (type.params.length + locals.length ≤ 50000)
    let code ← expr types
    pure ⟨type, locals.toArray, code⟩

end Decoder

end WasmHost
