import DuplexHandshake.Proofs.Curve25519.Ladder
import Mathlib.AlgebraicGeometry.EllipticCurve.Affine.Point

/-!
# Coordinates of low order

A coordinate belongs to points of the curve or to points of its twist. Those of points whose order divides
eight are five, and every multiple of such a coordinate by a multiple of eight is 0.
-/

namespace DuplexHandshake.Curve25519

open WeierstrassCurve Affine

/-- The curve `d * y^2 = x^3 + 486662 * x^2 + x`. For a square `d` it is Curve25519, and the twist for any
other. With `(d * x, d^2 * y)` in place of `(x, y)` its equation has the form of Weierstrass. -/
def curve (d : Element) : WeierstrassCurve.Affine Element :=
  { a₁ := 0, a₂ := 486662 * d, a₃ := 0, a₄ := d * d, a₆ := 0 }

/-- A point on the curve or on its twist that has this coordinate, and an order that divides 8. -/
def LowOrder (u : Element) : Prop :=
  ∃ (d y : Element) (h : (curve d).Nonsingular (d * u) y),
    d ≠ 0 ∧ 8 • (Point.some _ _ h : (curve d).Point) = 0

/-- The right side of the equation of the curve. -/
def cubic (u : Element) : Element :=
  u * (u * u + 486662 * u + 1)

variable {d u y : Element}

/-! ## Doubling a point -/

theorem equation_iff_cubic : (curve d).Equation (d * u) y ↔ y * y = d * d * d * cubic u := by
  rw [equation_iff]
  simp only [curve, cubic]
  constructor
  · intro h
    linear_combination h
  · intro h
    linear_combination h

theorem negY_curve (x : Element) : (curve d).negY x y = -y := by
  simp only [negY, curve]
  ring

theorem ne_neg_of_ne_zero (hy : y ≠ 0) : y ≠ -y := by
  have htwo : (2 : Element) ≠ 0 := by decide
  rw [ne_eq, eq_neg_iff_add_eq_zero, ← two_mul]
  exact mul_ne_zero htwo hy

theorem cubic_eq_zero_iff (hd : d ≠ 0) (h : (curve d).Equation (d * u) y) :
    cubic u = 0 ↔ y = 0 := by
  rw [equation_iff_cubic] at h
  constructor
  · intro hzero
    rw [hzero, mul_zero] at h
    exact mul_self_eq_zero.1 h
  · intro hy
    have hprod : d * d * d * cubic u = 0 := by
      rw [← h, hy, mul_zero]
    exact (mul_eq_zero.1 hprod).resolve_left (mul_ne_zero (mul_ne_zero hd hd) hd)

theorem add_self_of_cubic (hd : d ≠ 0) (h : (curve d).Nonsingular (d * u) y) (hu : cubic u = 0) :
    Point.some _ _ h + Point.some _ _ h = 0 := by
  apply Point.add_self_of_Y_eq
  rw [negY_curve, (cubic_eq_zero_iff hd h.1).1 hu, neg_zero]

/-- The slope of the tangent, freed of its denominator. -/
theorem slope_mul (hy : y ≠ 0) :
    (curve d).slope (d * u) (d * u) y y * (2 * y) =
      d * d * (3 * u * u + 2 * 486662 * u + 1) := by
  have hneg : y ≠ (curve d).negY (d * u) y := by
    rw [negY_curve]
    exact ne_neg_of_ne_zero hy
  have htwo : 2 * y = y - (curve d).negY (d * u) y := by
    rw [negY_curve]
    ring
  rw [slope_of_Y_ne rfl hneg, htwo, div_mul_cancel₀ _ (sub_ne_zero.2 hneg)]
  simp only [curve]
  ring

/-- The coordinate of the double by that of the point, freed of its denominator. -/
theorem addX_mul {slope v : Element} (hd : d ≠ 0) (hequation : y * y = d * d * d * cubic u)
    (hslope : slope * (2 * y) = d * d * (3 * u * u + 2 * 486662 * u + 1))
    (hv : (curve d).addX (d * u) (d * u) slope = d * v) :
    4 * cubic u * v = (u * u - 1) * (u * u - 1) := by
  have hd4 : d ^ 4 ≠ 0 := pow_ne_zero 4 hd
  apply mul_left_cancel₀ hd4
  simp only [addX, curve] at hv
  rw [cubic] at hequation ⊢
  linear_combination (-4 * d * v - 4 * (486662 * d + 2 * d * u)) * hequation - 4 * y * y * hv +
    (slope * (2 * y) + d * d * (3 * u * u + 2 * 486662 * u + 1)) * hslope

/-- Twice a point is neutral, as above, or has the coordinate that doubling gives. -/
theorem exists_add_self (hd : d ≠ 0) (h : (curve d).Nonsingular (d * u) y) (hu : cubic u ≠ 0) :
    ∃ (v z : Element) (h' : (curve d).Nonsingular (d * v) z),
      Point.some _ _ h + Point.some _ _ h = Point.some _ _ h' ∧
        4 * cubic u * v = (u * u - 1) * (u * u - 1) := by
  have hy : y ≠ 0 := fun hzero => hu ((cubic_eq_zero_iff hd h.1).2 hzero)
  have hneg : y ≠ (curve d).negY (d * u) y := by
    rw [negY_curve]
    exact ne_neg_of_ne_zero hy
  have hslanted : ¬ (d * u = d * u ∧ y = (curve d).negY (d * u) y) := fun hxy => hneg hxy.2
  have hsum : Point.some _ _ h + Point.some _ _ h =
      Point.some _ _ (nonsingular_add h h hslanted) := Point.add_self_of_Y_ne hneg
  obtain ⟨v, hv⟩ : ∃ v, (curve d).addX (d * u) (d * u) ((curve d).slope (d * u) (d * u) y y) = d * v :=
    ⟨_, (mul_inv_cancel_left₀ hd _).symm⟩
  have h' := nonsingular_add h h hslanted
  rw [hv] at h'
  refine ⟨v, _, h', ?_, addX_mul hd (equation_iff_cubic.1 h.1) (slope_mul hy) hv⟩
  rw [hsum, Point.some.injEq]
  exact ⟨hv, rfl⟩

/-! ## Numbers that are no squares -/

theorem not_isSquare_of_pow {a : Element} (h : a.pow ((prime - 1) / 2) ≠ 1) (ha : a ≠ 0) :
    ¬ IsSquare a :=
  fun hsquare => h (Element.pow_of_isSquare ha hsquare)

/-- The only point of order 2 is the one with the coordinate 0. -/
theorem cubic_eq_zero_iff_eq_zero : cubic u = 0 ↔ u = 0 := by
  have hsquare : ¬ IsSquare (486662 * 486662 - 4 : Element) :=
    not_isSquare_of_pow (by decide +kernel) (by decide +kernel)
  constructor
  · intro h
    rw [cubic] at h
    refine (mul_eq_zero.1 h).resolve_right fun hroot => hsquare ⟨2 * u + 486662, ?_⟩
    linear_combination -4 * hroot
  · rintro rfl
    rw [cubic, zero_mul]

/-- No double of a point has the coordinate -1. -/
theorem cubic_mul_neg_one_ne : 4 * cubic u * -1 ≠ (u * u - 1) * (u * u - 1) := by
  have hsquare : ¬ IsSquare (2 - 486662 : Element) :=
    not_isSquare_of_pow (by decide +kernel) (by decide +kernel)
  intro h
  have hu : u ≠ 0 := by
    rintro rfl
    exact absurd h (by decide +kernel)
  have hdouble : 2 * u ≠ 0 := mul_ne_zero (by decide) hu
  have hfourth : (u + 1) ^ 2 * (u + 1) ^ 2 = (2 - 486662) * (2 * u * (2 * u)) := by
    rw [cubic] at h
    linear_combination -h
  refine hsquare ⟨(u + 1) ^ 2 * (2 * u)⁻¹, ?_⟩
  rw [mul_mul_mul_comm, hfourth, ← mul_inv, mul_inv_cancel_right₀ (mul_ne_zero hdouble hdouble)]

/-- One of the two coordinates of points of order 8. -/
def eighth : Element :=
  325606250916557431795983626356110631294008115727848805560023387167927233504

/-- The other of the two coordinates of points of order 8. -/
def eighth' : Element :=
  39382357235489614581723060781553021112529911719440698176882885853963445705823

/-- The points of which the double has the coordinate 1. -/
theorem cubic_eq_iff : 4 * cubic u = (u * u - 1) * (u * u - 1) ↔ u = eighth ∨ u = eighth' := by
  have hproduct : eighth * eighth' = 1 := by decide +kernel
  have hsum : (eighth + eighth') * (4 - (eighth + eighth')) = -(4 * 486662 + 4) := by
    decide +kernel
  have hsquare : ¬ IsSquare ((4 - (eighth + eighth')) * (4 - (eighth + eighth')) - 4 : Element) :=
    not_isSquare_of_pow (by decide +kernel) (by decide +kernel)
  generalize eighth = a at *
  generalize eighth' = b at *
  have hfactors : (u * u - 1) * (u * u - 1) - 4 * cubic u =
      (u - a) * (u - b) * (u * u - (4 - (a + b)) * u + 1) := by
    rw [cubic]
    linear_combination (-u * u - 1 + (4 - (a + b)) * u) * hproduct - u * u * hsum
  rw [eq_comm, ← sub_eq_zero, hfactors, mul_eq_zero, mul_eq_zero, sub_eq_zero, sub_eq_zero]
  apply or_iff_left
  intro hroot
  refine hsquare ⟨2 * u - (4 - (a + b)), ?_⟩
  linear_combination -4 * hroot

/-! ## The five coordinates -/

/-- The coordinates of the points of which the order divides 8, on the curve and on its twist. -/
def lowCoordinates : List Element :=
  [0, 1, -1, eighth, eighth']

theorem eight_nsmul {W : WeierstrassCurve.Affine Element} (P : W.Point) :
    8 • P = P + P + (P + P) + (P + P + (P + P)) := by
  abel

/-- The points of which the double has the coordinate 0. -/
theorem eq_one_or_of_mul_zero {c : Element} (h : c * 0 = (u * u - 1) * (u * u - 1)) :
    u = 1 ∨ u = -1 := by
  rw [mul_zero, eq_comm, mul_self_eq_zero, sub_eq_zero] at h
  exact mul_self_eq_one_iff.1 h

theorem mem_lowCoordinates_of_lowOrder (h : LowOrder u) : u ∈ lowCoordinates := by
  obtain ⟨d, y, h, hd, height⟩ := h
  rw [eight_nsmul] at height
  by_cases hu : cubic u = 0
  · rw [cubic_eq_zero_iff_eq_zero.1 hu]
    decide
  obtain ⟨v, z, h₂, hdouble, hv⟩ := exists_add_self hd h hu
  rw [hdouble] at height
  by_cases hvzero : cubic v = 0
  · rw [cubic_eq_zero_iff_eq_zero.1 hvzero] at hv
    obtain rfl | rfl := eq_one_or_of_mul_zero hv
    · decide
    · decide
  obtain ⟨w, _, h₄, hquadruple, hw⟩ := exists_add_self hd h₂ hvzero
  rw [hquadruple] at height
  by_cases hwzero : cubic w = 0
  · rw [cubic_eq_zero_iff_eq_zero.1 hwzero] at hw
    obtain rfl | rfl := eq_one_or_of_mul_zero hw
    · rw [mul_one, cubic_eq_iff] at hv
      obtain rfl | rfl := hv
      · decide
      · decide
    · exact absurd hv cubic_mul_neg_one_ne
  obtain ⟨_, _, h₈, hoctuple, _⟩ := exists_add_self hd h₄ hwzero
  rw [hoctuple] at height
  exact absurd height (Point.some_ne_zero h₈)

/-- A point with the coordinate 1 or -1 has the order 4. -/
theorem add_add_of_mul_self (hd : d ≠ 0) (h : (curve d).Nonsingular (d * u) y) (hu : u * u = 1) :
    (Point.some _ _ h + Point.some _ _ h + (Point.some _ _ h + Point.some _ _ h) :
      (curve d).Point) = 0 := by
  have hcubic : cubic u ≠ 0 := by
    rw [ne_eq, cubic_eq_zero_iff_eq_zero]
    exact left_ne_zero_of_mul_eq_one hu
  obtain ⟨v, z, h₂, hsum, hv⟩ := exists_add_self hd h hcubic
  have hfour : (4 : Element) ≠ 0 := by decide
  rw [hu, sub_self, mul_zero] at hv
  have hvzero : v = 0 := (mul_eq_zero.1 hv).resolve_left (mul_ne_zero hfour hcubic)
  rw [hsum]
  exact add_self_of_cubic hd h₂ (cubic_eq_zero_iff_eq_zero.2 hvzero)

/-- Every coordinate but 0 has a point on one of the curves, of order more than 2. -/
theorem exists_nonsingular (hu : u ≠ 0) :
    ∃ d y, d ≠ 0 ∧ (curve d).Nonsingular (d * u) y := by
  have hcubic : cubic u ≠ 0 := by
    rw [ne_eq, cubic_eq_zero_iff_eq_zero]
    exact hu
  refine ⟨cubic u, cubic u * cubic u, hcubic, (nonsingular_iff _ _).2 ⟨?_, .inr ?_⟩⟩
  · rw [equation_iff_cubic]
    ring
  · simp only [curve, zero_mul, sub_zero]
    exact ne_neg_of_ne_zero (mul_ne_zero hcubic hcubic)

theorem lowOrder_of_mem (h : u ∈ lowCoordinates) : LowOrder u := by
  by_cases hu : u = 0
  · subst hu
    have hpoint : (curve 1).Nonsingular (1 * 0) 0 := by
      rw [mul_zero, nonsingular_zero]
      exact ⟨rfl, .inr (by decide +kernel)⟩
    refine ⟨1, 0, hpoint, one_ne_zero, ?_⟩
    rw [eight_nsmul, add_self_of_cubic one_ne_zero hpoint (cubic_eq_zero_iff_eq_zero.2 rfl)]
    simp only [add_zero]
  obtain ⟨d, y, hd, hpoint⟩ := exists_nonsingular hu
  refine ⟨d, y, hpoint, hd, ?_⟩
  rw [eight_nsmul]
  have hcases : u * u = 1 ∨ 4 * cubic u = (u * u - 1) * (u * u - 1) := by
    simp only [lowCoordinates, List.mem_cons, List.not_mem_nil, or_false] at h
    obtain hzero | hone | hneg | heighth := h
    · exact absurd hzero hu
    · exact .inl (mul_self_eq_one_iff.2 (.inl hone))
    · exact .inl (mul_self_eq_one_iff.2 (.inr hneg))
    · exact .inr (cubic_eq_iff.2 heighth)
  obtain hfour | height := hcases
  · rw [add_add_of_mul_self hd hpoint hfour, add_zero]
  · have hcubic : cubic u ≠ 0 := by
      rw [ne_eq, cubic_eq_zero_iff_eq_zero]
      exact hu
    have hfour : (4 : Element) ≠ 0 := by decide
    obtain ⟨v, z, h₂, hdouble, hv⟩ := exists_add_self hd hpoint hcubic
    have hone : v = 1 := by
      rw [← height] at hv
      exact mul_eq_left₀ (mul_ne_zero hfour hcubic) |>.1 hv
    rw [hdouble]
    exact add_add_of_mul_self hd h₂ (by rw [hone, mul_one])

/-- The coordinates of low order are the five. -/
theorem lowOrder_iff : LowOrder u ↔ u ∈ lowCoordinates :=
  ⟨mem_lowCoordinates_of_lowOrder, lowOrder_of_mem⟩

/-- The coordinates of low order have circles. -/
theorem nonempty_circle (h : u ∈ lowCoordinates) : Nonempty (Circle u) := by
  simp only [lowCoordinates, List.mem_cons, List.not_mem_nil, or_false] at h
  obtain rfl | hone | hneg | heighth := h
  · exact ⟨.ofTwo⟩
  · exact ⟨.ofFour (mul_self_eq_one_iff.2 (.inl hone))⟩
  · exact ⟨.ofFour (mul_self_eq_one_iff.2 (.inr hneg))⟩
  · refine ⟨.ofEight ?_⟩
    rw [mul_assoc]
    exact cubic_eq_iff.2 heighth

end DuplexHandshake.Curve25519
