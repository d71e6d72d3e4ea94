import WasmHost.Validation.Code
import WasmHost.Binary.Module

/-!
# Checking modules

A module is valid if every index in it refers to something of the right kind, every size lies within
the limits of its kind, and all code is well typed.
-/

namespace WasmHost

/-- A greatest size is at least the least one. -/
def orderedSizes (minimum : Nat) (maximum : Option Nat) : Bool :=
  maximum.all (minimum ≤ ·)

/-- The sizes of a table are in order. -/
def TableType.isValid (type : TableType) : Bool :=
  orderedSizes type.minimum type.maximum

/-- What a function type weighs in the types of imports and exports. -/
def FuncType.weight (type : FuncType) : Nat :=
  2 + type.params.length + type.results.length

/-- What the types of all imports and exports together weigh less than. -/
def weightLimit : Nat := 1000000

/-- The greatest number of pages that addresses of a width can reach. -/
def IndexType.pages : IndexType → Nat
  | i32 => powerOfTwo 16
  | i64 => powerOfTwo 48

/-- A memory has no more pages than addresses can reach, and a shared one has a greatest size. -/
def MemoryType.isValid (type : MemoryType) : Bool :=
  orderedSizes type.minimum type.maximum
    && type.minimum ≤ type.index.pages
    && type.maximum.all (· ≤ type.index.pages)
    && (!type.shared || type.maximum.isSome)

namespace Module

/-- The functions that an expression refers to. -/
def funcsIn (items : ConstExpr) : List Nat :=
  items.filterMap fun
    | .func index => some index
    | _ => none

/-- The functions that code may turn into references: those named outside of code. -/
def declaredFuncs (m : Module) : List Nat :=
  (m.exports.toList.filterMap fun e => match e.kind with
    | .func index => some index
    | _ => none)
  ++ m.globals.toList.flatMap (fun g => funcsIn g.value)
  ++ m.elems.toList.flatMap (fun segment => segment.items.flatMap funcsIn)

/-- What code in the module may refer to. -/
def context (m : Module) : Context where
  funcs := m.funcTypes
  tables := m.tableTypes
  memories := m.memoryTypes
  globals := m.globalTypes
  elems := (m.elems.toList.map (·.type)).toArray
  dataCount := m.dataCount
  declared := m.declaredFuncs

variable (m : Module) (context : Context)

/-- An export refers to an entity of its kind. -/
def checkExport (item : Export) : Bool :=
  match item.kind with
  | .func index => index < context.funcs.size
  | .table index => index < context.tables.size
  | .memory index => index < context.memories.size
  | .global index => index < context.globals.size

/-- What an import weighs. -/
def importWeight (item : Import) : Nat :=
  match item.type with
  | .func type => type.weight
  | _ => 1

/-- What an export weighs. -/
def exportWeight (item : Export) : Nat :=
  match item.kind with
  | .func index => ((context.funcs[index]?).map FuncType.weight).getD 1
  | _ => 1

/-- What the types of all imports and exports weigh together with the module itself. -/
def weight : Nat :=
  let imports := m.imports.toList.foldl (fun total item => total + importWeight item) 1
  m.exports.toList.foldl (fun total item => total + exportWeight context item) imports

/-- The start function takes and returns nothing. -/
def checkStart (index : Nat) : Bool :=
  context.funcs[index]? = some {}

/-- A constant expression yields a value of the given type. -/
def checkConst (type : ValType) (items : ConstExpr) : Bool :=
  context.checkConst m.importedGlobals.length type items

/-- A global's first value has the global's type. -/
def checkGlobal (global : Global) : Bool :=
  m.checkConst context global.type.type global.value

/-- The items of an element segment have its type, and so has the table that it is copied into. -/
def checkElem (segment : ElemSegment) : Bool :=
  segment.items.all (m.checkConst context segment.type)
    && match segment.mode with
      | .active target offset =>
        match context.tables[target]? with
        | some table =>
          table.element = segment.type && m.checkConst context table.index.valType offset
        | none => false
      | _ => true

/-- The memory that a data segment is copied into exists. -/
def checkData (segment : DataSegment) : Bool :=
  match segment.mode with
  | .active target offset =>
    match context.memories[target]? with
    | some memory => m.checkConst context memory.index.valType offset
    | none => false
  | _ => true

/-- Whether the module is valid. -/
def isValid : Bool :=
  let context := m.context
  context.tables.size ≤ 100 && context.memories.size ≤ 100
    && context.tables.toList.all (·.isValid)
    && context.memories.toList.all (·.isValid)
    && m.globals.toList.all (m.checkGlobal context)
    && m.exports.toList.all (checkExport context)
    && decide (m.exports.toList.map (·.name)).Nodup
    && m.weight context < weightLimit
    && m.start.all (checkStart context)
    && m.elems.toList.all (m.checkElem context)
    && m.datas.toList.all (m.checkData context)
    && m.funcs.toList.all context.checkFunc

end Module

/-- Reads a module from its binary form and checks it. -/
def Module.load? (bytes : ByteArray) : Option Module := do
  let m ← Module.decode bytes
  guard m.isValid
  pure m

end WasmHost
