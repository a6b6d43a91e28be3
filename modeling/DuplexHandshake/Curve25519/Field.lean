/-!
# The field of the curve

Arithmetic modulo the prime 2^255 - 19.
-/

namespace DuplexHandshake.Curve25519

def prime : Nat := Nat.pow 2 255 - 19

instance : @NeZero Nat Zero.ofOfNat0 prime := ⟨by decide⟩

abbrev Element := Fin prime

/-- The `n` low bits of a number, the highest of them first. -/
def lowBits (k : Nat) : Nat → List Bool
  | 0 => []
  | n + 1 => k.testBit n :: lowBits k n

namespace Element

/-- Raises to a power below 2^255: squares for every bit, and multiplies for those that are set. -/
def pow (a : Element) (k : Nat) : Element :=
  (lowBits k 255).foldl (fun acc bit => if bit then acc * acc * a else acc * acc) 1

def inverse (a : Element) : Element :=
  a.pow (prime - 2)

end Element

end DuplexHandshake.Curve25519
