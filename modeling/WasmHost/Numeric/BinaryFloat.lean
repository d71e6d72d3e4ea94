import WasmHost.Numeric.PowerOfTwo

/-!
# Binary floating-point formats

A finite value of a binary format is a signed whole number of units, `± mantissa * 2 ^ exponent`. On
this exact view the roundings to an integral value and the conversions to integers are plain
arithmetic on natural numbers, the same for both formats.
-/

namespace WasmHost

/-- A binary interchange format: the widths of its fraction and exponent fields. -/
structure BinaryFloat where
  fractionBits : Nat
  exponentBits : Nat

/-- Which integral value a rounding goes to. -/
inductive Rounding
  | up
  | down
  | towardZero
  | nearestEven
  deriving DecidableEq, Repr

/-- Whether rounding `whole + rest / unit` with this sign goes to the next number away from zero. -/
def Rounding.movesAway (rounding : Rounding) (negative : Bool) (whole rest unit : Nat) : Bool :=
  match rounding with
  | up => !negative && rest != 0
  | down => negative && rest != 0
  | towardZero => false
  | nearestEven => unit < 2 * rest || (2 * rest == unit && whole % 2 == 1)

namespace BinaryFloat

def single : BinaryFloat := ⟨23, 8⟩

def double : BinaryFloat := ⟨52, 11⟩

/-- What a bit pattern stands for; a finite value is `± mantissa * 2 ^ exponent`. -/
inductive Reading
  | nan
  | infinite (negative : Bool)
  | finite (negative : Bool) (mantissa : Nat) (exponent : Int)
  deriving DecidableEq, Repr

variable (format : BinaryFloat)

/-- The bit that holds the sign. -/
def signBit : Nat :=
  powerOfTwo (format.fractionBits + format.exponentBits)

/-- The exponent field of infinities and NaNs. -/
def topExponent : Nat :=
  powerOfTwo format.exponentBits - 1

/-- The exponent field of one. -/
def bias : Nat :=
  powerOfTwo (format.exponentBits - 1) - 1

/-- The quiet NaN with an empty payload. -/
def canonicalNaN : Nat :=
  format.topExponent * powerOfTwo format.fractionBits + powerOfTwo (format.fractionBits - 1)

def read (bits : Nat) : Reading :=
  let negative := format.signBit ≤ bits
  let magnitude := bits % format.signBit
  let exponent := magnitude / powerOfTwo format.fractionBits
  let fraction := magnitude % powerOfTwo format.fractionBits
  if exponent = format.topExponent then
    if fraction = 0 then .infinite negative else .nan
  else if exponent = 0 then
    .finite negative fraction (1 - (format.bias + format.fractionBits : Nat))
  else
    .finite negative (powerOfTwo format.fractionBits + fraction)
      (exponent - (format.bias + format.fractionBits : Nat))

/-- The bits of a whole number that the format holds exactly, with the given sign. -/
def ofWhole (negative : Bool) (n : Nat) : Nat :=
  let sign := if negative then format.signBit else 0
  if n = 0 then sign
  else
    let top := n.log2
    sign + (top + format.bias) * powerOfTwo format.fractionBits
      + (n * powerOfTwo (format.fractionBits - top) - powerOfTwo format.fractionBits)

/-- The bits of the value rounded to an integral one. A NaN becomes the canonical one. -/
def roundIntegral (rounding : Rounding) (bits : Nat) : Nat :=
  match format.read bits with
  | .nan => format.canonicalNaN
  | .infinite _ => bits
  | .finite negative mantissa exponent =>
    if 0 ≤ exponent then bits
    else
      let unit := powerOfTwo (-exponent).toNat
      let whole := mantissa / unit
      let away := rounding.movesAway negative whole (mantissa % unit) unit
      format.ofWhole negative (if away then whole + 1 else whole)

/-- The integer part of a finite value, with its sign. -/
def integerPart (negative : Bool) (mantissa : Nat) (exponent : Int) : Int :=
  let whole :=
    if 0 ≤ exponent then mantissa * powerOfTwo exponent.toNat
    else mantissa / powerOfTwo (-exponent).toNat
  if negative then -whole else whole

end BinaryFloat

end WasmHost
