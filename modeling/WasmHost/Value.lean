import WasmHost.Types

/-!
# Values

Operands of the machine. Floating-point values are kept as their bits, so that moving one never
changes a NaN. Nothing outside a module can hand it an external reference, so the only external
reference is null.
-/

namespace WasmHost

/-- A reference: null, or a function by its index in the module. -/
inductive Ref
  | null
  | func (index : Nat)
  deriving DecidableEq, Repr, Inhabited

/-- An operand. -/
inductive Value
  | i32 (bits : UInt32)
  | i64 (bits : UInt64)
  | f32 (bits : UInt32)
  | f64 (bits : UInt64)
  | v128 (bits : BitVec 128)
  | ref (reference : Ref)
  deriving DecidableEq, Repr

instance : Inhabited Value := ⟨.i32 0⟩

namespace Value

/-- The value that a local of this type has before it is first set. -/
def default : ValType → Value
  | .num .i32 => i32 0
  | .num .i64 => i64 0
  | .num .f32 => f32 0
  | .num .f64 => f64 0
  | .v128 => v128 0
  | .ref _ _ => ref .null

/-- The truth value of a comparison. -/
def ofBool (b : Bool) : Value :=
  i32 (if b then 1 else 0)

/-- An index of the given width, cut down to that width. -/
def ofIndex : IndexType → Nat → Value
  | .i32, n => i32 (UInt32.ofNat n)
  | .i64, n => i64 (UInt64.ofNat n)

/-- The answer of a growth instruction that did not grow: all bits set. -/
def minusOne : IndexType → Value
  | .i32 => i32 0xFFFFFFFF
  | .i64 => i64 0xFFFFFFFFFFFFFFFF

/-- Reads an operand as an unsigned index; an operand that is no integer has none. -/
def toIndex? : Value → Option Nat
  | i32 bits => some bits.toNat
  | i64 bits => some bits.toNat
  | _ => none

def isRef : Value → Bool
  | ref _ => true
  | _ => false

/-- The text of a result in diagnostics: integers signed, the others as their unsigned bits. -/
def text : Value → String
  | i32 bits => "I32(" ++ toString bits.toInt32.toInt ++ ")"
  | i64 bits => "I64(" ++ toString bits.toInt64.toInt ++ ")"
  | f32 bits => "F32(" ++ toString bits.toNat ++ ")"
  | f64 bits => "F64(" ++ toString bits.toNat ++ ")"
  | v128 bits => "V128(" ++ toString bits.toNat ++ ")"
  | ref .null => "null"
  | ref (.func index) => "func " ++ toString index

/-- The text of a list of results in diagnostics. -/
def listText (values : List Value) : String :=
  "[" ++ ", ".intercalate (values.map text) ++ "]"

end Value

end WasmHost
