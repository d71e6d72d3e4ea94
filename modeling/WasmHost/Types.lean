/-!
# Types of WebAssembly entities

Value types, function types and the types of memories, tables and globals. The set of value types
includes references that cannot be null, so that a signature can be compared with any function type
an engine could describe; the binary format accepted by this library produces nullable ones only.

`FuncType.render` is the one spelling of a function type in diagnostics, whatever its types are
named.
-/

namespace WasmHost

/-- The scalar types. -/
inductive NumType
  | i32
  | i64
  | f32
  | f64
  deriving DecidableEq, Repr, Inhabited

/-- What a reference may point at. -/
inductive HeapType
  | func
  | external
  deriving DecidableEq, Repr, Inhabited

/-- The type of an operand, a local, a global, a parameter or a result. -/
inductive ValType
  | num (type : NumType)
  | v128
  | ref (nullable : Bool) (heap : HeapType)
  deriving DecidableEq, Repr, Inhabited

namespace ValType

@[match_pattern]
abbrev i32 : ValType := num .i32

@[match_pattern]
abbrev i64 : ValType := num .i64

@[match_pattern]
abbrev f32 : ValType := num .f32

@[match_pattern]
abbrev f64 : ValType := num .f64

/-- A function reference or null. -/
@[match_pattern]
abbrev funcref : ValType := ref true .func

/-- A reference to something outside the module, or null. -/
@[match_pattern]
abbrev externref : ValType := ref true .external

def isRef : ValType → Bool
  | ref _ _ => true
  | _ => false

end ValType

/-- Parameters and results, first one first. -/
structure FuncType where
  params : List ValType := []
  results : List ValType := []
  deriving DecidableEq, Repr, Inhabited

def NumType.text : NumType → String
  | i32 => "i32"
  | i64 => "i64"
  | f32 => "f32"
  | f64 => "f64"

def HeapType.text : HeapType → String
  | func => "func"
  | external => "extern"

def ValType.text : ValType → String
  | num type => type.text
  | v128 => "v128"
  | ref true heap => "(ref null " ++ heap.text ++ ")"
  | ref false heap => "(ref " ++ heap.text ++ ")"

namespace FuncType

/-- One bracketed list of names under its keyword; nothing at all for an empty list. -/
def clause (keyword : String) : List String → String
  | [] => ""
  | names => " (" ++ keyword ++ " " ++ " ".intercalate names ++ ")"

/-- The spelling of a function type, given the names of its parameters and results. -/
def render (params results : List String) : String :=
  "(func" ++ clause "param" params ++ clause "result" results ++ ")"

/-- The spelling of a function type, such as `(func (param i32 i64) (result f32))`. -/
def text (type : FuncType) : String :=
  render (type.params.map ValType.text) (type.results.map ValType.text)

end FuncType

/-- The width of addresses into a memory or of indices into a table. -/
inductive IndexType
  | i32
  | i64
  deriving DecidableEq, Repr, Inhabited

/-- The value type that an index has on the operand stack. -/
def IndexType.valType : IndexType → ValType
  | i32 => .i32
  | i64 => .i64

/-- The narrower of two index types, which a copy between two memories or tables uses as length. -/
def IndexType.narrower : IndexType → IndexType → IndexType
  | i64, i64 => i64
  | _, _ => i32

/-- A linear memory: its sizes are counted in pages. -/
structure MemoryType where
  index : IndexType := .i32
  shared : Bool := false
  minimum : Nat
  maximum : Option Nat := none
  deriving DecidableEq, Repr, Inhabited

/-- A table of references: its sizes are counted in elements. -/
structure TableType where
  element : ValType
  index : IndexType := .i32
  minimum : Nat
  maximum : Option Nat := none
  deriving DecidableEq, Repr, Inhabited

/-- The most elements that a table can grow to: the declared maximum, or as many as an index can
count. -/
def TableType.reach (type : TableType) : Nat :=
  match type.maximum, type.index with
  | some maximum, _ => maximum
  | none, .i32 => UInt32.size - 1
  | none, .i64 => UInt64.size - 1

/-- A global variable or constant. -/
structure GlobalType where
  type : ValType
  isMutable : Bool
  deriving DecidableEq, Repr, Inhabited

/-- The bytes in one page of memory. -/
def pageSize : Nat := 65536

/-- The size in bytes that the limiter is told as a memory's maximum: the declared one, or the reach
of a 32-bit address. A 64-bit memory has none unless its declared maximum is counted by a 64-bit
word. -/
def MemoryType.maximumBytes (type : MemoryType) : Option Nat :=
  match type.maximum, type.index with
  | some pages, _ => if pages * pageSize < UInt64.size then some (pages * pageSize) else none
  | none, .i32 => some UInt32.size
  | none, .i64 => none

end WasmHost
