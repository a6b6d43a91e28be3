import DuplexHandshake.Curve25519.Field

/-!
# Multiples of a point by its coordinate

On a curve in Montgomery form the first coordinate of a multiple of a point depends on the first
coordinate of the point alone. It is found with coordinates kept as fractions: a ladder carries two
neighbouring multiples and goes down the bits of the factor, doubling one of the two and adding
both.
-/

namespace DuplexHandshake.Curve25519

/-- A coordinate as the fraction `x / z`; with `z = 0` it is the coordinate of the neutral point. -/
structure Fraction where
  x : Element
  z : Element
  deriving DecidableEq

namespace Fraction

def double (p : Fraction) : Fraction :=
  let s := (p.x + p.z) * (p.x + p.z)
  let t := (p.x - p.z) * (p.x - p.z)
  let d := s - t
  { x := s * t, z := d * (s + 121665 * d) }

/-- The coordinate of the sum of two points whose difference has the coordinate `u`. -/
def add (u : Element) (p q : Fraction) : Fraction :=
  let a := (q.x - q.z) * (p.x + p.z)
  let b := (q.x + q.z) * (p.x - p.z)
  { x := (a + b) * (a + b), z := u * ((a - b) * (a - b)) }

def value (p : Fraction) : Element :=
  p.x * p.z.inverse

end Fraction

/-- One bit of the ladder. From the multiples `k` and `k + 1` it leads to `2 * k + bit` and its
successor. -/
def ladderStep (u : Element) (rungs : Fraction × Fraction) (bit : Bool) : Fraction × Fraction :=
  let (low, high) := rungs
  let sum := low.add u high
  if bit then (sum, high.double) else (low.double, sum)

/-- The two rungs reached after the given bits, the highest bit first. -/
def ladder (u : Element) (bits : List Bool) : Fraction × Fraction :=
  bits.foldl (ladderStep u) ({ x := 1, z := 0 }, { x := u, z := 1 })

/-- The coordinate of the `k`-fold of the point with coordinate `u`, for `k` below 2^255. -/
def multiple (k : Nat) (u : Element) : Element :=
  (ladder u (lowBits k 255)).1.value

end DuplexHandshake.Curve25519
