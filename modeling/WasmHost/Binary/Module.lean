import WasmHost.Binary.Code

/-!
# Reading modules

A module is a header and a row of sections. Sections of known kinds come at most once and in a fixed
order; custom sections may stand anywhere, and of their content only the name is read. Two names of
custom sections announce extensions that cannot be ignored, and are refused.
-/

namespace WasmHost

namespace Decoder

/-- Where a section of the given kind stands among the others. Kinds without a place are refused. -/
def sectionPlace : UInt8 → Option Nat
  | 1 => some 1
  | 2 => some 2
  | 3 => some 3
  | 4 => some 4
  | 5 => some 5
  | 6 => some 6
  | 7 => some 7
  | 8 => some 8
  | 9 => some 9
  | 12 => some 10
  | 10 => some 11
  | 11 => some 12
  | _ => none

/-- A module under construction: functions have types before they have bodies. -/
structure Draft where
  module : Module := {}
  declared : List FuncType := []
  hasCode : Bool := false

/-- The most items that a section or segment may hold when no narrower limit applies. -/
def manyItems : Nat := 1000000

def importItem (types : Array FuncType) : Decoder Import := do
  let moduleName ← name
  let itemName ← name
  let type ← match ← byte with
    | 0 => do ImportType.func <$> typeAt types (← u32)
    | 1 => ImportType.table <$> tableType
    | 2 => ImportType.memory <$> memoryType
    | 3 => ImportType.global <$> globalType
    | _ => failure
  pure ⟨moduleName, itemName, type⟩

def exportItem : Decoder Export := do
  let itemName ← name
  let kind ← match ← byte with
    | 0 => ExportKind.func <$> u32
    | 1 => ExportKind.table <$> u32
    | 2 => ExportKind.memory <$> u32
    | 3 => ExportKind.global <$> u32
    | _ => failure
  pure ⟨itemName, kind⟩

/-- A global with its first value. -/
def globalItem (types : Array FuncType) : Decoder Global := do
  let type ← globalType
  let value ← constExpr types
  pure ⟨type, value⟩

/-- The kind of the items of an element segment that lists functions by index. -/
def elemKind : Decoder ValType := do
  expect 0x00
  pure .funcref

/-- An element segment. The lowest flag bit tells segments that are not copied at instantiation, the
next one an explicit table or a declaration, the highest one items given as expressions. -/
def elemItem (types : Array FuncType) : Decoder ElemSegment := do
  let flags ← u32
  guard (flags < 8)
  let asExprs := flags / 4 = 1
  let explicit := flags / 2 % 2 = 1
  let mode ←
    if flags % 2 = 1 then
      pure (if explicit then SegmentMode.declared else SegmentMode.passive)
    else do
      let table ← if explicit then u32 else pure 0
      let offset ← constExpr types
      pure (SegmentMode.active table offset)
  let type ←
    if flags % 4 = 0 then pure ValType.funcref
    else if asExprs then refType
    else elemKind
  let items ←
    if asExprs then vector 10000000 (constExpr types)
    else vector 10000000 (do pure [ConstInstr.func (← u32)])
  pure ⟨mode, type, items⟩

def dataItem (types : Array FuncType) : Decoder DataSegment := do
  let mode ← match ← u32 with
    | 0 => SegmentMode.active 0 <$> constExpr types
    | 1 => pure SegmentMode.passive
    | 2 => SegmentMode.active <$> u32 <*> constExpr types
    | _ => failure
  let n ← u32
  let bytes ← take n
  pure ⟨mode, ⟨bytes.toArray⟩⟩

/-- As many function bodies as functions were declared. -/
def bodies (types : Array FuncType) (declared : List FuncType) : Decoder (List Func) := do
  guard ((← u32) = declared.length)
  go declared []
where
  /-- The functions read so far come last one first. -/
  go : List FuncType → List Func → Decoder (List Func)
    | [], funcs => pure funcs.reverse
    | type :: rest, funcs => do go rest ((← body types type) :: funcs)

/-- Adds the content of a section to the module. -/
def sectionContent (kind : UInt8) (draft : Draft) : Decoder Draft := do
  let m := draft.module
  let types := m.types
  match kind with
  | 1 => do
    let items ← vector manyItems funcType
    pure { draft with module.types := items.toArray }
  | 2 => do
    let items ← vector manyItems (importItem types)
    pure { draft with module.imports := items.toArray }
  | 3 => do
    let declared ← vector manyItems (do typeAt types (← u32))
    pure { draft with declared }
  | 4 => do
    let items ← vector 100 tableType
    pure { draft with module.tables := items.toArray }
  | 5 => do
    let items ← vector 100 memoryType
    pure { draft with module.memories := items.toArray }
  | 6 => do
    let items ← vector manyItems (globalItem types)
    pure { draft with module.globals := items.toArray }
  | 7 => do
    let items ← vector manyItems exportItem
    pure { draft with module.exports := items.toArray }
  | 8 => do
    let index ← u32
    pure { draft with module.start := some index }
  | 9 => do
    let items ← vector 100000 (elemItem types)
    pure { draft with module.elems := items.toArray }
  | 12 => do
    let n ← u32
    pure { draft with module.dataCount := some n }
  | 10 => do
    let funcs ← bodies types draft.declared
    pure { draft with module.funcs := funcs.toArray, hasCode := true }
  | 11 => do
    let items ← vector 100000 (dataItem types)
    pure { draft with module.datas := items.toArray }
  | _ => failure

/-- The names of custom sections that change what the module means. -/
def refusedSections : List String :=
  ["webidl-bindings", "wasm-interface-types"]

/-- Whether a custom section starts with a name and can be passed over. -/
def isIgnorable (content : List UInt8) : Bool :=
  match name content with
  | some (title, _) => title ∉ refusedSections
  | none => false

/-- Reads sections to the end of the bytes; `place` is that of the last section read. Each section
takes a byte at least, which bounds their number. -/
def sections : (bound place : Nat) → Draft → Decoder Draft
  | 0, _, draft => fun bytes => if bytes.isEmpty then some (draft, []) else none
  | bound + 1, place, draft => fun bytes =>
    if bytes.isEmpty then some (draft, [])
    else (do
      let kind ← byte
      let length ← u32
      if kind = 0 then
        let content ← take length
        guard (isIgnorable content)
        sections bound place draft
      else
        let next ← sectionPlace kind
        guard (place < next)
        let draft ← within length (sectionContent kind draft)
        sections bound next draft : Decoder Draft) bytes

/-- The first eight bytes of a module: a magic number and version 1. -/
def header : List UInt8 :=
  [0x00, 0x61, 0x73, 0x6D, 0x01, 0x00, 0x00, 0x00]

/-- A whole module. Declared functions have bodies, and an announced number of data segments is
kept. -/
def module : Decoder Module := do
  guard ((← take 8) = header)
  let draft ← fun bytes => sections bytes.length 0 {} bytes
  let m := draft.module
  guard (draft.hasCode ∨ draft.declared.isEmpty)
  guard (m.dataCount.all (· = m.datas.size))
  pure m

end Decoder

/-- Reads a module from its binary form. -/
def Module.decode (bytes : ByteArray) : Option Module :=
  Decoder.module.runOn bytes.data.toList

end WasmHost
