import WasmHost.Instr
import WasmHost.Machine.Sparse

/-!
# Linear memories

A memory has a size in pages and a sparse row of bytes. Bytes that were never written are zero, so a
memory can grow without touching its bytes, whatever its size.
-/

namespace WasmHost

/-- A linear memory: its size in pages and its bytes. -/
structure Memory where
  type : MemoryType
  pages : Nat
  bytes : Sparse UInt8 := { rest := 0 }

namespace Memory

def size (memory : Memory) : Nat :=
  memory.pages * pageSize

def byte (memory : Memory) (address : Nat) : UInt8 :=
  memory.bytes.get address

/-- The word of `n` bytes at an address, low byte first; of more than eight, the first eight. -/
def word (memory : Memory) (address : Nat) : (n : Nat) → UInt64
  | 0 => 0
  | n + 1 => (memory.byte address).toUInt64 ||| (memory.word (address + 1) n <<< 8)

/-- Writes `n` bytes at an address, the `i`-th one being `value i`. -/
def write (memory : Memory) (address n : Nat) (value : Nat → UInt8) : Memory :=
  { memory with bytes := memory.bytes.write address n value }

/-- Sets `n` bytes from an address on to one value. -/
def fill (memory : Memory) (address n : Nat) (value : UInt8) : Memory :=
  { memory with bytes := memory.bytes.fill address n value }

/-- Copies `n` bytes of a row from the place `first` there to an address here. -/
def copy (memory : Memory) (source : Sparse UInt8) (first n address : Nat) : Memory :=
  { memory with bytes := memory.bytes.copy source first n address }

/-- Adds pages of zeros. -/
def grow (memory : Memory) (pages : Nat) : Memory :=
  { memory with pages := memory.pages + pages }

end Memory

/-- The value that a load makes of the word that it has read. -/
def LoadOp.value (op : LoadOp) (word : UInt64) : Value :=
  match op.type with
  | .f32 => .f32 word.toUInt32
  | .f64 => .f64 word
  | .i32 =>
    match op.sign, op.bytes with
    | .signed, 1 => .i32 (IntUnOp.extend8.eval32 word.toUInt32)
    | .signed, 2 => .i32 (IntUnOp.extend16.eval32 word.toUInt32)
    | _, _ => .i32 word.toUInt32
  | .i64 =>
    match op.sign, op.bytes with
    | .signed, 1 => .i64 (IntUnOp.extend8.eval64 word)
    | .signed, 2 => .i64 (IntUnOp.extend16.eval64 word)
    | .signed, 4 => .i64 (IntUnOp.extend32.eval64 word)
    | _, _ => .i64 word

/-- The bits of a scalar as a word. References and vectors have none. -/
def Value.word? : Value → Option UInt64
  | i32 bits => some bits.toUInt64
  | i64 bits => some bits
  | f32 bits => some bits.toUInt64
  | f64 bits => some bits
  | _ => none

end WasmHost
