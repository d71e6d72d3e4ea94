/-!
# Powers of two

The weights of bits.
-/

namespace WasmHost

/-- The weight of the bit with the given number. -/
def powerOfTwo (bit : Nat) : Nat :=
  Nat.pow 2 bit

end WasmHost
