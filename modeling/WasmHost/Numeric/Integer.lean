import WasmHost.Trap

/-!
# Integer operators

Arithmetic on 32-bit and 64-bit words. Words carry no sign: an operator that treats its operands as
signed says so in its name. Shift and rotation counts are taken modulo the width.
-/

namespace WasmHost

/-- Operators on one word. The extensions copy the sign of the low bits upwards. -/
inductive IntUnOp
  | clz
  | ctz
  | popcnt
  | extend8
  | extend16
  | extend32
  deriving DecidableEq, Repr

/-- Operators on two words. -/
inductive IntBinOp
  | add
  | sub
  | mul
  | divS
  | divU
  | remS
  | remU
  | and
  | or
  | xor
  | shl
  | shrS
  | shrU
  | rotl
  | rotr
  deriving DecidableEq, Repr

/-- Comparisons of two words. -/
inductive IntRelOp
  | eq
  | ne
  | ltS
  | ltU
  | gtS
  | gtU
  | leS
  | leU
  | geS
  | geU
  deriving DecidableEq, Repr

def IntUnOp.eval32 (op : IntUnOp) (a : UInt32) : UInt32 :=
  match op with
  | clz => ⟨a.toBitVec.clz⟩
  | ctz => ⟨a.toBitVec.ctz⟩
  | popcnt => ⟨a.toBitVec.cpop⟩
  | extend8 => a.toUInt8.toInt8.toInt32.toUInt32
  | extend16 => a.toUInt16.toInt16.toInt32.toUInt32
  | extend32 => a

def IntUnOp.eval64 (op : IntUnOp) (a : UInt64) : UInt64 :=
  match op with
  | clz => ⟨a.toBitVec.clz⟩
  | ctz => ⟨a.toBitVec.ctz⟩
  | popcnt => ⟨a.toBitVec.cpop⟩
  | extend8 => a.toUInt8.toInt8.toInt64.toUInt64
  | extend16 => a.toUInt16.toInt16.toInt64.toUInt64
  | extend32 => a.toUInt32.toInt32.toInt64.toUInt64

/-- The operator on 32-bit words. Division traps on zero, and where its quotient does not fit. -/
def IntBinOp.eval32 (op : IntBinOp) (a b : UInt32) : Except Trap UInt32 :=
  match op with
  | add => .ok (a + b)
  | sub => .ok (a - b)
  | mul => .ok (a * b)
  | divS =>
    if b = 0 then .error .divideByZero
    else if a = 0x80000000 ∧ b = 0xFFFFFFFF then .error .integerOverflow
    else .ok (a.toInt32 / b.toInt32).toUInt32
  | divU => if b = 0 then .error .divideByZero else .ok (a / b)
  | remS => if b = 0 then .error .divideByZero else .ok (a.toInt32 % b.toInt32).toUInt32
  | remU => if b = 0 then .error .divideByZero else .ok (a % b)
  | and => .ok (a &&& b)
  | or => .ok (a ||| b)
  | xor => .ok (a ^^^ b)
  | shl => .ok (a <<< b)
  | shrS => .ok (a.toInt32 >>> b.toInt32).toUInt32
  | shrU => .ok (a >>> b)
  | rotl => .ok ((a <<< b) ||| (a >>> (32 - b % 32)))
  | rotr => .ok ((a >>> b) ||| (a <<< (32 - b % 32)))

/-- The operator on 64-bit words. Division traps on zero, and where its quotient does not fit. -/
def IntBinOp.eval64 (op : IntBinOp) (a b : UInt64) : Except Trap UInt64 :=
  match op with
  | add => .ok (a + b)
  | sub => .ok (a - b)
  | mul => .ok (a * b)
  | divS =>
    if b = 0 then .error .divideByZero
    else if a = 0x8000000000000000 ∧ b = 0xFFFFFFFFFFFFFFFF then .error .integerOverflow
    else .ok (a.toInt64 / b.toInt64).toUInt64
  | divU => if b = 0 then .error .divideByZero else .ok (a / b)
  | remS => if b = 0 then .error .divideByZero else .ok (a.toInt64 % b.toInt64).toUInt64
  | remU => if b = 0 then .error .divideByZero else .ok (a % b)
  | and => .ok (a &&& b)
  | or => .ok (a ||| b)
  | xor => .ok (a ^^^ b)
  | shl => .ok (a <<< b)
  | shrS => .ok (a.toInt64 >>> b.toInt64).toUInt64
  | shrU => .ok (a >>> b)
  | rotl => .ok ((a <<< b) ||| (a >>> (64 - b % 64)))
  | rotr => .ok ((a >>> b) ||| (a <<< (64 - b % 64)))

def IntRelOp.eval32 (op : IntRelOp) (a b : UInt32) : Bool :=
  match op with
  | eq => a == b
  | ne => a != b
  | ltS => a.toInt32 < b.toInt32
  | ltU => a < b
  | gtS => b.toInt32 < a.toInt32
  | gtU => b < a
  | leS => a.toInt32 ≤ b.toInt32
  | leU => a ≤ b
  | geS => b.toInt32 ≤ a.toInt32
  | geU => b ≤ a

def IntRelOp.eval64 (op : IntRelOp) (a b : UInt64) : Bool :=
  match op with
  | eq => a == b
  | ne => a != b
  | ltS => a.toInt64 < b.toInt64
  | ltU => a < b
  | gtS => b.toInt64 < a.toInt64
  | gtU => b < a
  | leS => a.toInt64 ≤ b.toInt64
  | leU => a ≤ b
  | geS => b.toInt64 ≤ a.toInt64
  | geU => b ≤ a

end WasmHost
