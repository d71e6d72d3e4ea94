import WasmHost.Numeric.BinaryFloat

/-!
# Floating-point operators

Operators on the bits of 32-bit and 64-bit floating-point values. Sign changes act on the bits alone
and keep a NaN's payload; every other operator that yields a NaN yields the canonical one.
-/

namespace WasmHost

/-- Operators on one floating-point value. -/
inductive FloatUnOp
  | abs
  | neg
  | ceil
  | floor
  | trunc
  | nearest
  | sqrt
  deriving DecidableEq, Repr

/-- Operators on two floating-point values. -/
inductive FloatBinOp
  | add
  | sub
  | mul
  | div
  | min
  | max
  | copysign
  deriving DecidableEq, Repr

/-- Comparisons of two floating-point values. -/
inductive FloatRelOp
  | eq
  | ne
  | lt
  | gt
  | le
  | ge
  deriving DecidableEq, Repr

namespace FloatUnOp

def eval32 (op : FloatUnOp) (a : UInt32) : UInt32 :=
  match op with
  | abs => a &&& 0x7FFFFFFF
  | neg => a ^^^ 0x80000000
  | ceil => round .up
  | floor => round .down
  | trunc => round .towardZero
  | nearest => round .nearestEven
  | sqrt => (Float32.ofBits a).sqrt.toBits
where
  round (rounding : Rounding) : UInt32 :=
    UInt32.ofNat (BinaryFloat.single.roundIntegral rounding a.toNat)

def eval64 (op : FloatUnOp) (a : UInt64) : UInt64 :=
  match op with
  | abs => a &&& 0x7FFFFFFFFFFFFFFF
  | neg => a ^^^ 0x8000000000000000
  | ceil => round .up
  | floor => round .down
  | trunc => round .towardZero
  | nearest => round .nearestEven
  | sqrt => (Float.ofBits a).sqrt.toBits
where
  round (rounding : Rounding) : UInt64 :=
    UInt64.ofNat (BinaryFloat.double.roundIntegral rounding a.toNat)

end FloatUnOp

namespace FloatBinOp

/-- The operator on 32-bit values. Minimum and maximum order the two zeros by sign. -/
def eval32 (op : FloatBinOp) (a b : UInt32) : UInt32 :=
  let x := Float32.ofBits a
  let y := Float32.ofBits b
  match op with
  | add => (x + y).toBits
  | sub => (x - y).toBits
  | mul => (x * y).toBits
  | div => (x / y).toBits
  | min => if x < y then a else if y < x then b else if x == y then a ||| b else (x + y).toBits
  | max => if x < y then b else if y < x then a else if x == y then a &&& b else (x + y).toBits
  | copysign => (a &&& 0x7FFFFFFF) ||| (b &&& 0x80000000)

/-- The operator on 64-bit values. Minimum and maximum order the two zeros by sign. -/
def eval64 (op : FloatBinOp) (a b : UInt64) : UInt64 :=
  let x := Float.ofBits a
  let y := Float.ofBits b
  match op with
  | add => (x + y).toBits
  | sub => (x - y).toBits
  | mul => (x * y).toBits
  | div => (x / y).toBits
  | min => if x < y then a else if y < x then b else if x == y then a ||| b else (x + y).toBits
  | max => if x < y then b else if y < x then a else if x == y then a &&& b else (x + y).toBits
  | copysign => (a &&& 0x7FFFFFFFFFFFFFFF) ||| (b &&& 0x8000000000000000)

end FloatBinOp

namespace FloatRelOp

/-- The comparison of 32-bit values: with a NaN only `ne` holds. -/
def eval32 (op : FloatRelOp) (a b : UInt32) : Bool :=
  let x := Float32.ofBits a
  let y := Float32.ofBits b
  match op with
  | eq => x == y
  | ne => !(x == y)
  | lt => x < y
  | gt => y < x
  | le => x ≤ y
  | ge => y ≤ x

/-- The comparison of 64-bit values: with a NaN only `ne` holds. -/
def eval64 (op : FloatRelOp) (a b : UInt64) : Bool :=
  let x := Float.ofBits a
  let y := Float.ofBits b
  match op with
  | eq => x == y
  | ne => !(x == y)
  | lt => x < y
  | gt => y < x
  | le => x ≤ y
  | ge => y ≤ x

end FloatRelOp

end WasmHost
