import WasmHost.Numeric.Integer
import WasmHost.Numeric.Float
import WasmHost.Numeric.Conversion

/-!
# Numeric operators

All instructions that take scalar operands to one scalar result, with their types and their meaning.
`NumOp.opcodeOrder` lists those with a one-byte opcode in the order of the binary format.
-/

namespace WasmHost

/-- An operator on scalar operands. -/
inductive NumOp
  | intTest (width : Width)
  | intRel (width : Width) (op : IntRelOp)
  | intUn (width : Width) (op : IntUnOp)
  | intBin (width : Width) (op : IntBinOp)
  | floatRel (width : Width) (op : FloatRelOp)
  | floatUn (width : Width) (op : FloatUnOp)
  | floatBin (width : Width) (op : FloatBinOp)
  | convert (conversion : Conversion)
  deriving DecidableEq, Repr

namespace NumOp

/-- The types of the operands, first one first. -/
def operands : NumOp → List NumType
  | intTest width => [width.intType]
  | intRel width _ => [width.intType, width.intType]
  | intUn width _ => [width.intType]
  | intBin width _ => [width.intType, width.intType]
  | floatRel width _ => [width.floatType, width.floatType]
  | floatUn width _ => [width.floatType]
  | floatBin width _ => [width.floatType, width.floatType]
  | convert conversion => [conversion.source]

def result : NumOp → NumType
  | intTest _ => .i32
  | intRel _ _ => .i32
  | intUn width _ => width.intType
  | intBin width _ => width.intType
  | floatRel _ _ => .i32
  | floatUn width _ => width.floatType
  | floatBin width _ => width.floatType
  | convert conversion => conversion.target

/-- Applies an operator to the operands on top of a stack, last operand first. Operands of other
types trap; validation rules that out. -/
def eval (op : NumOp) (stack : List Value) : Except Trap (List Value) :=
  match op, stack with
  | intTest .w32, .i32 a :: rest => .ok (.ofBool (a == 0) :: rest)
  | intTest .w64, .i64 a :: rest => .ok (.ofBool (a == 0) :: rest)
  | intRel .w32 op, .i32 b :: .i32 a :: rest => .ok (.ofBool (op.eval32 a b) :: rest)
  | intRel .w64 op, .i64 b :: .i64 a :: rest => .ok (.ofBool (op.eval64 a b) :: rest)
  | intUn .w32 op, .i32 a :: rest => .ok (.i32 (op.eval32 a) :: rest)
  | intUn .w64 op, .i64 a :: rest => .ok (.i64 (op.eval64 a) :: rest)
  | intBin .w32 op, .i32 b :: .i32 a :: rest =>
    match op.eval32 a b with
    | .ok c => .ok (.i32 c :: rest)
    | .error trap => .error trap
  | intBin .w64 op, .i64 b :: .i64 a :: rest =>
    match op.eval64 a b with
    | .ok c => .ok (.i64 c :: rest)
    | .error trap => .error trap
  | floatRel .w32 op, .f32 b :: .f32 a :: rest => .ok (.ofBool (op.eval32 a b) :: rest)
  | floatRel .w64 op, .f64 b :: .f64 a :: rest => .ok (.ofBool (op.eval64 a b) :: rest)
  | floatUn .w32 op, .f32 a :: rest => .ok (.f32 (op.eval32 a) :: rest)
  | floatUn .w64 op, .f64 a :: rest => .ok (.f64 (op.eval64 a) :: rest)
  | floatBin .w32 op, .f32 b :: .f32 a :: rest => .ok (.f32 (op.eval32 a b) :: rest)
  | floatBin .w64 op, .f64 b :: .f64 a :: rest => .ok (.f64 (op.eval64 a b) :: rest)
  | convert conversion, a :: rest =>
    match conversion.eval a with
    | .ok c => .ok (c :: rest)
    | .error trap => .error trap
  | _, _ => .error .unreachable

/-- The comparisons of words, in the order of their opcodes. -/
def intRels : List IntRelOp :=
  [.eq, .ne, .ltS, .ltU, .gtS, .gtU, .leS, .leU, .geS, .geU]

/-- The operators on two words, in the order of their opcodes. -/
def intBins : List IntBinOp :=
  [.add, .sub, .mul, .divS, .divU, .remS, .remU, .and, .or, .xor, .shl, .shrS, .shrU, .rotl, .rotr]

/-- The comparisons of floating-point values, in the order of their opcodes. -/
def floatRels : List FloatRelOp :=
  [.eq, .ne, .lt, .gt, .le, .ge]

/-- The operators on one floating-point value, in the order of their opcodes. -/
def floatUns : List FloatUnOp :=
  [.abs, .neg, .ceil, .floor, .trunc, .nearest, .sqrt]

/-- The operators on two floating-point values, in the order of their opcodes. -/
def floatBins : List FloatBinOp :=
  [.add, .sub, .mul, .div, .min, .max, .copysign]

/-- The conversions with a one-byte opcode, in the order of their opcodes. -/
def conversions : List Conversion :=
  [.wrap,
    .truncate false .w32 .w32 .signed, .truncate false .w32 .w32 .unsigned,
    .truncate false .w32 .w64 .signed, .truncate false .w32 .w64 .unsigned,
    .extend .signed, .extend .unsigned,
    .truncate false .w64 .w32 .signed, .truncate false .w64 .w32 .unsigned,
    .truncate false .w64 .w64 .signed, .truncate false .w64 .w64 .unsigned,
    .convert .w32 .w32 .signed, .convert .w32 .w32 .unsigned,
    .convert .w32 .w64 .signed, .convert .w32 .w64 .unsigned, .demote,
    .convert .w64 .w32 .signed, .convert .w64 .w32 .unsigned,
    .convert .w64 .w64 .signed, .convert .w64 .w64 .unsigned, .promote,
    .reinterpretFloat .w32, .reinterpretFloat .w64, .reinterpretInt .w32, .reinterpretInt .w64]

/-- The operators with a one-byte opcode, in the order of their opcodes. -/
def opcodeOrder : Array NumOp :=
  ([intTest .w32] ++ intRels.map (intRel .w32)
    ++ [intTest .w64] ++ intRels.map (intRel .w64)
    ++ floatRels.map (floatRel .w32) ++ floatRels.map (floatRel .w64)
    ++ [intUn .w32 .clz, intUn .w32 .ctz, intUn .w32 .popcnt] ++ intBins.map (intBin .w32)
    ++ [intUn .w64 .clz, intUn .w64 .ctz, intUn .w64 .popcnt] ++ intBins.map (intBin .w64)
    ++ floatUns.map (floatUn .w32) ++ floatBins.map (floatBin .w32)
    ++ floatUns.map (floatUn .w64) ++ floatBins.map (floatBin .w64)
    ++ conversions.map convert
    ++ [intUn .w32 .extend8, intUn .w32 .extend16,
      intUn .w64 .extend8, intUn .w64 .extend16, intUn .w64 .extend32]).toArray

/-- The operator with the given one-byte opcode. -/
def ofOpcode? (opcode : UInt8) : Option NumOp :=
  if opcode < 0x45 then none else opcodeOrder[opcode.toNat - 0x45]?

/-- The saturating conversions, in the order of their opcodes. -/
def saturatingOrder : Array NumOp :=
  #[.convert (.truncate true .w32 .w32 .signed), .convert (.truncate true .w32 .w32 .unsigned),
    .convert (.truncate true .w32 .w64 .signed), .convert (.truncate true .w32 .w64 .unsigned),
    .convert (.truncate true .w64 .w32 .signed), .convert (.truncate true .w64 .w32 .unsigned),
    .convert (.truncate true .w64 .w64 .signed), .convert (.truncate true .w64 .w64 .unsigned)]

end NumOp

end WasmHost
