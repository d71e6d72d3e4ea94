import WasmHost.Numeric.BinaryFloat
import WasmHost.Value
import WasmHost.Trap

/-!
# Conversions between scalar types

Conversions from floating point to integers are computed from the exact integer part of the operand,
so one range check serves the trapping and the saturating form.
-/

namespace WasmHost

/-- How a word is read as an integer. -/
inductive Signedness
  | signed
  | unsigned
  deriving DecidableEq, Repr

/-- The width of a word. -/
inductive Width
  | w32
  | w64
  deriving DecidableEq, Repr

/-- Conversions; widths name the result where both sides could be meant. -/
inductive Conversion
  | wrap
  | extend (sign : Signedness)
  | truncate (saturating : Bool) (target source : Width) (sign : Signedness)
  | convert (target source : Width) (sign : Signedness)
  | demote
  | promote
  | reinterpretFloat (width : Width)
  | reinterpretInt (width : Width)
  deriving DecidableEq, Repr

def Width.bits : Width → Nat
  | w32 => 32
  | w64 => 64

def Width.intType : Width → NumType
  | w32 => .i32
  | w64 => .i64

def Width.floatType : Width → NumType
  | w32 => .f32
  | w64 => .f64

def Width.format : Width → BinaryFloat
  | w32 => .single
  | w64 => .double

/-- An integer as a word of a width, cut down to it. -/
def Width.ofInt : Width → Int → Value
  | w32, n => .i32 (UInt32.ofInt n)
  | w64, n => .i64 (UInt64.ofInt n)

/-- The least integer that a word holds under a reading. -/
def Signedness.least (sign : Signedness) (width : Width) : Int :=
  match sign with
  | signed => -powerOfTwo (width.bits - 1)
  | unsigned => 0

/-- The greatest integer that a word holds under a reading. -/
def Signedness.greatest (sign : Signedness) (width : Width) : Int :=
  match sign with
  | signed => powerOfTwo (width.bits - 1) - 1
  | unsigned => powerOfTwo width.bits - 1

namespace Conversion

def source : Conversion → NumType
  | wrap => .i64
  | extend _ => .i32
  | truncate _ _ source _ => source.floatType
  | convert _ source _ => source.intType
  | demote => .f64
  | promote => .f32
  | reinterpretFloat width => width.floatType
  | reinterpretInt width => width.intType

def target : Conversion → NumType
  | wrap => .i32
  | extend _ => .i64
  | truncate _ target _ _ => target.intType
  | convert target _ _ => target.floatType
  | demote => .f32
  | promote => .f64
  | reinterpretFloat width => width.intType
  | reinterpretInt width => width.floatType

/-- The word for a floating-point value without its fraction. A NaN and a value out of range trap,
or become zero and the nearest end of the range when saturating. -/
def integer (saturating : Bool) (target source : Width) (sign : Signedness) (bits : Nat) :
    Except Trap Value :=
  let least := sign.least target
  let greatest := sign.greatest target
  let beyond (negative : Bool) : Except Trap Value :=
    if saturating then .ok (target.ofInt (if negative then least else greatest))
    else .error .integerOverflow
  match source.format.read bits with
  | .nan => if saturating then .ok (target.ofInt 0) else .error .invalidConversion
  | .infinite negative => beyond negative
  | .finite negative mantissa exponent =>
    let n := BinaryFloat.integerPart negative mantissa exponent
    if n < least then beyond true
    else if greatest < n then beyond false
    else .ok (target.ofInt n)

/-- A word as the nearest floating-point value, read with a sign or without. -/
def float (target : Width) (sign : Signedness) (signedWord : Int64) (word : UInt64) : Value :=
  match target, sign with
  | .w32, .signed => .f32 signedWord.toFloat32.toBits
  | .w32, .unsigned => .f32 word.toFloat32.toBits
  | .w64, .signed => .f64 signedWord.toFloat.toBits
  | .w64, .unsigned => .f64 word.toFloat.toBits

/-- The conversion of one operand. An operand of another type traps; validation rules that out. -/
def eval (conversion : Conversion) (operand : Value) : Except Trap Value :=
  match conversion, operand with
  | wrap, .i64 a => .ok (.i32 a.toUInt32)
  | extend .signed, .i32 a => .ok (.i64 a.toInt32.toInt64.toUInt64)
  | extend .unsigned, .i32 a => .ok (.i64 a.toUInt64)
  | truncate saturating target .w32 sign, .f32 a => integer saturating target .w32 sign a.toNat
  | truncate saturating target .w64 sign, .f64 a => integer saturating target .w64 sign a.toNat
  | convert target .w32 sign, .i32 a => .ok (float target sign a.toInt32.toInt64 a.toUInt64)
  | convert target .w64 sign, .i64 a => .ok (float target sign a.toInt64 a)
  | demote, .f64 a => .ok (.f32 (Float.ofBits a).toFloat32.toBits)
  | promote, .f32 a => .ok (.f64 (Float32.ofBits a).toFloat.toBits)
  | reinterpretFloat .w32, .f32 a => .ok (.i32 a)
  | reinterpretFloat .w64, .f64 a => .ok (.i64 a)
  | reinterpretInt .w32, .i32 a => .ok (.f32 a)
  | reinterpretInt .w64, .i64 a => .ok (.f64 a)
  | _, _ => .error .unreachable

end Conversion

end WasmHost
