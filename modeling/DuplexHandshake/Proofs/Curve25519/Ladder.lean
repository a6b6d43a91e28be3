import DuplexHandshake.Curve25519.Ladder
import DuplexHandshake.Proofs.Curve25519.Field
import Mathlib.Data.Fin.VecNotation
import Mathlib.Tactic.LinearCombination

/-!
# The ladder on points of small order

The multiples of a point whose eightfold is neutral go round in a circle of eight. The two rungs of the
ladder are always neighbours on the circle, up to a factor in both parts of a fraction; where an addition
degenerates, the factor is 0 and the fraction 0 / 0. So a factor divisible by eight leads back to a fraction
with denominator 0.
-/

namespace DuplexHandshake.Curve25519

/-! ## Fractions with a common factor -/

namespace Fraction

/-- The fraction with both parts multiplied. The same coordinate, unless the factor is 0. -/
def scale (k : Element) (p : Fraction) : Fraction :=
  { x := k * p.x, z := k * p.z }

theorem scale_scale (j k : Element) (p : Fraction) : (p.scale k).scale j = p.scale (j * k) := by
  simp only [scale, mul_assoc]

theorem double_scale (k : Element) (p : Fraction) :
    (p.scale k).double = p.double.scale (k ^ 4) := by
  simp only [scale, double, Fraction.mk.injEq]
  constructor <;> ring

theorem add_scale (u j k : Element) (p q : Fraction) :
    (p.scale j).add u (q.scale k) = (p.add u q).scale ((j * k) ^ 2) := by
  simp only [scale, add, Fraction.mk.injEq]
  constructor <;> ring

theorem value_of_z {p : Fraction} (h : p.z = 0) : p.value = 0 := by
  rw [value, h, Element.inverse_zero, mul_zero]

end Fraction

/-! ## Circles -/

/-- Fractions for the first eight multiples of a point with coordinate `u`, of which the eighth would be
the neutral one again. -/
structure Circle (u : Element) where
  multiple : Fin 8 → Fraction
  zero : multiple 0 = { x := 1, z := 0 }
  one : multiple 1 = { x := u, z := 1 }
  double : ∀ m, ∃ k, (multiple m).double = (multiple (m + m)).scale k
  add : ∀ m, ∃ k, (multiple m).add u (multiple (m + 1)) = (multiple (m + m + 1)).scale k

namespace Circle

variable {u : Element} (c : Circle u)

/-- The rungs are the multiples `m` and `m + 1`. -/
def Holds (m : Nat) (rungs : Fraction × Fraction) : Prop :=
  ∃ j k, rungs =
    ((c.multiple (Fin.ofNat 8 m)).scale j, (c.multiple (Fin.ofNat 8 m + 1)).scale k)

theorem holds_ladderStep (m : Nat) (rungs : Fraction × Fraction) (bit : Bool)
    (h : c.Holds m rungs) : c.Holds (2 * m + bit.toNat) (ladderStep u rungs bit) := by
  obtain ⟨j, k, rfl⟩ := h
  obtain ⟨a, ha⟩ := c.add (Fin.ofNat 8 m)
  have hsum := Fraction.add_scale u j k (c.multiple (Fin.ofNat 8 m)) (c.multiple (Fin.ofNat 8 m + 1))
  rw [ha, Fraction.scale_scale] at hsum
  cases bit with
  | false =>
    obtain ⟨b, hb⟩ := c.double (Fin.ofNat 8 m)
    have hlow := Fraction.double_scale j (c.multiple (Fin.ofNat 8 m))
    rw [hb, Fraction.scale_scale] at hlow
    have hindex : Fin.ofNat 8 (2 * m + false.toNat) = Fin.ofNat 8 m + Fin.ofNat 8 m := by
      ext
      simp only [Fin.ofNat, Fin.val_add, Bool.toNat_false]
      omega
    refine ⟨j ^ 4 * b, (j * k) ^ 2 * a, ?_⟩
    simp only [ladderStep, hlow, hsum, hindex, Bool.false_eq_true, ↓reduceIte]
  | true =>
    obtain ⟨b, hb⟩ := c.double (Fin.ofNat 8 m + 1)
    have hhigh := Fraction.double_scale k (c.multiple (Fin.ofNat 8 m + 1))
    rw [hb, Fraction.scale_scale] at hhigh
    have hindex : Fin.ofNat 8 (2 * m + true.toNat) = Fin.ofNat 8 m + Fin.ofNat 8 m + 1 := by
      ext
      simp only [Fin.ofNat, Fin.val_add, Bool.toNat_true]
      omega
    have hnext : Fin.ofNat 8 m + 1 + (Fin.ofNat 8 m + 1) = Fin.ofNat 8 m + Fin.ofNat 8 m + 1 + 1 := by
      ext
      simp only [Fin.ofNat, Fin.val_add]
      omega
    refine ⟨(j * k) ^ 2 * a, k ^ 4 * b, ?_⟩
    simp only [ladderStep, hhigh, hsum, hindex, hnext, ↓reduceIte]

/-- All bits of a number lead to its multiple. -/
theorem holds_ladder (k : Nat) : c.Holds (k % 2 ^ 255) (ladder u (lowBits k 255)) := by
  have hstart : c.Holds 0 ({ x := 1, z := 0 }, { x := u, z := 1 }) := by
    refine ⟨1, 1, ?_⟩
    have hzero : Fin.ofNat 8 0 = 0 := rfl
    rw [hzero, zero_add, c.zero, c.one]
    simp only [Fraction.scale, one_mul]
  have hrun := foldl_lowBits c.holds_ladderStep k 255 hstart
  rw [Nat.zero_mul, Nat.zero_add] at hrun
  exact hrun

include c in
theorem multiple_eq_zero {k : Nat} (h : k % 8 = 0) : Curve25519.multiple k u = 0 := by
  obtain ⟨j, _, hladder⟩ := c.holds_ladder k
  have hindex : Fin.ofNat 8 (k % 2 ^ 255) = 0 := by
    ext
    simp only [Fin.ofNat, Fin.val_zero]
    omega
  rw [Curve25519.multiple, hladder]
  apply Fraction.value_of_z
  rw [hindex, c.zero]
  exact mul_zero j

end Circle

/-! ## The circles there are -/

namespace Fraction

variable {u : Element}

theorem add_comm (u : Element) (p q : Fraction) : p.add u q = q.add u p := by
  simp only [add, Fraction.mk.injEq]
  constructor <;> ring

theorem double_swap (x z : Element) : double { x := z, z := x } = double { x, z } := by
  simp only [double, Fraction.mk.injEq]
  constructor <;> ring

theorem double_neutral : double { x := 1, z := 0 } = scale 1 { x := 1, z := 0 } := by
  decide +kernel

theorem double_zero : double { x := 0, z := 1 } = scale 1 { x := 1, z := 0 } := by
  decide +kernel

theorem double_one : double { x := 1, z := 1 } = scale 1946656 { x := 0, z := 1 } := by
  decide +kernel

theorem add_neutral (u : Element) :
    add u { x := 1, z := 0 } { x := u, z := 1 } = scale (4 * u) { x := u, z := 1 } := by
  simp only [add, scale, Fraction.mk.injEq]
  constructor <;> ring

end Fraction

namespace Circle

variable {u : Element}

/-- The circle of the point of order 2. -/
def ofTwo : Circle 0 where
  multiple m := if m.val % 2 = 0 then { x := 1, z := 0 } else { x := 0, z := 1 }
  zero := rfl
  one := rfl
  double m := ⟨1, by revert m; decide +kernel⟩
  add m := ⟨0, by revert m; decide +kernel⟩

/-- The circle of a point of order 4: twice the point is the one of order 2. -/
def ofFour (h : u * u = 1) : Circle u where
  multiple :=
    ![{ x := 1, z := 0 }, { x := u, z := 1 }, { x := 0, z := 1 }, { x := u, z := 1 },
      { x := 1, z := 0 }, { x := u, z := 1 }, { x := 0, z := 1 }, { x := u, z := 1 }]
  zero := rfl
  one := rfl
  double m := by
    have hpoint : Fraction.double { x := u, z := 1 } =
        Fraction.scale (4 * u * (2 + 486662 * u)) { x := 0, z := 1 } := by
      simp only [Fraction.double, Fraction.scale, Fraction.mk.injEq]
      constructor
      · linear_combination (u * u - 1) * h
      · linear_combination 4 * u * h
    fin_cases m
    exacts [⟨_, Fraction.double_neutral⟩, ⟨_, hpoint⟩, ⟨_, Fraction.double_zero⟩, ⟨_, hpoint⟩,
      ⟨_, Fraction.double_neutral⟩, ⟨_, hpoint⟩, ⟨_, Fraction.double_zero⟩, ⟨_, hpoint⟩]
  add m := by
    have hlow := Fraction.add_neutral u
    have hhigh : Fraction.add u { x := 0, z := 1 } { x := u, z := 1 } =
        Fraction.scale (4 * u) { x := u, z := 1 } := by
      simp only [Fraction.add, Fraction.scale, Fraction.mk.injEq]
      constructor
      · linear_combination -4 * h
      · linear_combination 4 * u * h
    have hlow' := (Fraction.add_comm u _ _).trans hlow
    have hhigh' := (Fraction.add_comm u _ _).trans hhigh
    fin_cases m
    exacts [⟨_, hlow⟩, ⟨_, hhigh'⟩, ⟨_, hhigh⟩, ⟨_, hlow'⟩, ⟨_, hlow⟩, ⟨_, hhigh'⟩, ⟨_, hhigh⟩,
      ⟨_, hlow'⟩]

/-- The circle of a point of order 8: twice the point has the coordinate 1. -/
def ofEight (h : 4 * u * (u * u + 486662 * u + 1) = (u * u - 1) * (u * u - 1)) : Circle u where
  multiple :=
    ![{ x := 1, z := 0 }, { x := u, z := 1 }, { x := 1, z := 1 }, { x := 1, z := u },
      { x := 0, z := 1 }, { x := 1, z := u }, { x := 1, z := 1 }, { x := u, z := 1 }]
  zero := rfl
  one := rfl
  double m := by
    have hpoint : Fraction.double { x := u, z := 1 } =
        Fraction.scale ((u * u - 1) ^ 2) { x := 1, z := 1 } := by
      simp only [Fraction.double, Fraction.scale, Fraction.mk.injEq]
      constructor
      · ring
      · linear_combination h
    have hthird := (Fraction.double_swap u 1).trans hpoint
    fin_cases m
    exacts [⟨_, Fraction.double_neutral⟩, ⟨_, hpoint⟩, ⟨_, Fraction.double_one⟩, ⟨_, hthird⟩,
      ⟨_, Fraction.double_zero⟩, ⟨_, hthird⟩, ⟨_, Fraction.double_one⟩, ⟨_, hpoint⟩]
  add m := by
    have hneutral := Fraction.add_neutral u
    have hfirst : Fraction.add u { x := u, z := 1 } { x := 1, z := 1 } =
        Fraction.scale (4 * (u - 1) ^ 2) { x := 1, z := u } := by
      simp only [Fraction.add, Fraction.scale, Fraction.mk.injEq]
      constructor <;> ring
    have hsecond : Fraction.add u { x := 1, z := 1 } { x := 1, z := u } =
        Fraction.scale (4 * (u - 1) ^ 2) { x := 1, z := u } := by
      simp only [Fraction.add, Fraction.scale, Fraction.mk.injEq]
      constructor <;> ring
    have hthird : Fraction.add u { x := 1, z := u } { x := 0, z := 1 } =
        Fraction.scale (4 * u) { x := u, z := 1 } := by
      simp only [Fraction.add, Fraction.scale, Fraction.mk.injEq]
      constructor <;> ring
    -- The second half of the circle is the first one backwards.
    fin_cases m
    exacts [⟨_, hneutral⟩, ⟨_, hfirst⟩, ⟨_, hsecond⟩, ⟨_, hthird⟩,
      ⟨_, (Fraction.add_comm u _ _).trans hthird⟩, ⟨_, (Fraction.add_comm u _ _).trans hsecond⟩,
      ⟨_, (Fraction.add_comm u _ _).trans hfirst⟩, ⟨_, (Fraction.add_comm u _ _).trans hneutral⟩]

end Circle

end DuplexHandshake.Curve25519
