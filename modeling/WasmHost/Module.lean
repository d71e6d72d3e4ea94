import WasmHost.Instr

/-!
# Modules

A decoded module. Index spaces list the imported entities first, then the defined ones.
-/

namespace WasmHost

/-- The type of an imported entity. -/
inductive ImportType
  | func (type : FuncType)
  | table (type : TableType)
  | memory (type : MemoryType)
  | global (type : GlobalType)
  deriving DecidableEq, Repr

namespace ImportType

def func? : ImportType → Option FuncType
  | func type => some type
  | _ => none

def table? : ImportType → Option TableType
  | table type => some type
  | _ => none

def memory? : ImportType → Option MemoryType
  | memory type => some type
  | _ => none

def global? : ImportType → Option GlobalType
  | global type => some type
  | _ => none

end ImportType

/-- Something that the module needs from outside, under a name in two parts. -/
structure Import where
  module : String
  name : String
  type : ImportType
  deriving DecidableEq, Repr

/-- Which entity an export gives access to. -/
inductive ExportKind
  | func (index : Nat)
  | table (index : Nat)
  | memory (index : Nat)
  | global (index : Nat)
  deriving DecidableEq, Repr

/-- Something that the module offers under a name. -/
structure Export where
  name : String
  kind : ExportKind
  deriving DecidableEq, Repr

/-- A function defined by the module; `locals` are the variables after its parameters. -/
structure Func where
  type : FuncType
  locals : Array ValType := #[]
  body : List Instr := []

/-- A global defined by the module. -/
structure Global where
  type : GlobalType
  value : ConstExpr

/-- When a segment is copied. -/
inductive SegmentMode
  | passive
  | declared
  | active (target : Nat) (offset : ConstExpr)

/-- References to be copied into tables. -/
structure ElemSegment where
  mode : SegmentMode
  type : ValType
  items : List ConstExpr

/-- Bytes to be copied into memories. -/
structure DataSegment where
  mode : SegmentMode
  bytes : ByteArray

/-- A decoded module. -/
structure Module where
  types : Array FuncType := #[]
  imports : Array Import := #[]
  funcs : Array Func := #[]
  tables : Array TableType := #[]
  memories : Array MemoryType := #[]
  globals : Array Global := #[]
  exports : Array Export := #[]
  start : Option Nat := none
  elems : Array ElemSegment := #[]
  dataCount : Option Nat := none
  datas : Array DataSegment := #[]

namespace Module

def importedFuncs (m : Module) : List FuncType :=
  m.imports.toList.filterMap (·.type.func?)

def importedTables (m : Module) : List TableType :=
  m.imports.toList.filterMap (·.type.table?)

def importedMemories (m : Module) : List MemoryType :=
  m.imports.toList.filterMap (·.type.memory?)

def importedGlobals (m : Module) : List GlobalType :=
  m.imports.toList.filterMap (·.type.global?)

def funcTypes (m : Module) : Array FuncType :=
  (m.importedFuncs ++ m.funcs.toList.map (·.type)).toArray

def tableTypes (m : Module) : Array TableType :=
  (m.importedTables ++ m.tables.toList).toArray

def memoryTypes (m : Module) : Array MemoryType :=
  (m.importedMemories ++ m.memories.toList).toArray

def globalTypes (m : Module) : Array GlobalType :=
  (m.importedGlobals ++ m.globals.toList.map (·.type)).toArray

def export? (m : Module) (name : String) : Option Export :=
  m.exports.toList.find? (·.name = name)

end Module

end WasmHost
