import DuplexHandshake.Curve25519.Field
import Mathlib.Data.Nat.Prime.Factorial
import Mathlib.FieldTheory.Finite.Basic
import Mathlib.NumberTheory.LucasPrimality
import Mathlib.Tactic.NormNum.Prime

/-!
# The numbers modulo the prime are a field

That 2^255 - 19 is a prime is shown by Lucas's test, as are the large prime factors that the test needs.
Powers taken bit by bit are powers, and so the inverse that is computed as a power is the inverse.
-/

namespace DuplexHandshake.Curve25519

/-! ## Going down the bits -/

/-- A fold over the low bits of a number keeps whatever one bit keeps, with twice the number and the bit
in place of the number. -/
theorem foldl_lowBits {α : Type} {f : α → Bool → α} {P : Nat → α → Prop}
    (step : ∀ m a bit, P m a → P (2 * m + bit.toNat) (f a bit)) (k n : Nat) {m : Nat} {a : α}
    (h : P m a) : P (m * 2 ^ n + k % 2 ^ n) ((lowBits k n).foldl f a) := by
  induction n generalizing m a with
  | zero =>
    rw [Nat.pow_zero, Nat.mod_one, Nat.mul_one, Nat.add_zero]
    exact h
  | succ n ih =>
    have hrest := ih (step m a (k.testBit n) h)
    have hindex : (2 * m + (k.testBit n).toNat) * 2 ^ n + k % 2 ^ n =
        m * 2 ^ (n + 1) + k % 2 ^ (n + 1) := by
      rw [Nat.mod_pow_succ, Nat.toNat_testBit, Nat.pow_succ]
      ring
    rw [hindex] at hrest
    exact hrest

/-! ## The prime -/

/-- A power of `a` modulo `p`, with the bits of the exponent below 2^255. -/
def powMod (p a k : Nat) : Nat :=
  (lowBits k 255).foldl (fun acc bit => if bit then acc * acc * a % p else acc * acc % p) (1 % p)

theorem powMod_eq (p a : Nat) {k : Nat} (hk : k < 2 ^ 255) : powMod p a k = a ^ k % p := by
  have step : ∀ m acc (bit : Bool), acc = a ^ m % p →
      (if bit then acc * acc * a % p else acc * acc % p) = a ^ (2 * m + bit.toNat) % p := by
    intro m acc bit hacc
    subst hacc
    cases bit with
    | false => simp only [Bool.false_eq_true, ↓reduceIte, Bool.toNat_false, Nat.add_zero, Nat.two_mul,
        Nat.pow_add, ← Nat.mul_mod]
    | true =>
      simp only [↓reduceIte, Bool.toNat_true, Nat.pow_succ, Nat.two_mul, Nat.pow_add]
      rw [Nat.mul_mod, ← Nat.mul_mod (a ^ m), ← Nat.mul_mod]
  have hpow := foldl_lowBits (P := fun m acc => acc = a ^ m % p) step k 255 (m := 0)
    (a := 1 % p) (by rw [Nat.pow_zero])
  rw [Nat.zero_mul, Nat.zero_add, Nat.mod_eq_of_lt hk] at hpow
  exact hpow

/-- Lucas's test: a number `p` is prime if the order of some `a` is the one that only a prime allows. All
primes that divide `p - 1` must be among the given ones. -/
theorem prime_of_powMod {p : Nat} (a : Nat) (primes : List Nat) (hp : p < 2 ^ 255)
    (all : p - 1 ∣ primes.prod ^ 5) (prime : primes.Forall Nat.Prime)
    (one : powMod p a (p - 1) = 1) (others : ∀ q ∈ primes, powMod p a ((p - 1) / q) ≠ 1) :
    p.Prime := by
  have hcast : ∀ k, k < 2 ^ 255 → ((a : ZMod p) ^ k = 1 ↔ powMod p a k = 1 % p) := by
    intro k hk
    rw [powMod_eq p a hk, ← Nat.cast_pow, ← Nat.cast_one, ZMod.natCast_eq_natCast_iff']
  have hone : 1 % p = 1 := by
    rw [powMod_eq p a (by omega)] at one
    rw [Nat.one_mod_eq_one]
    rintro rfl
    omega
  have hmem : ∀ q, q.Prime → q ∣ p - 1 → q ∈ primes := by
    intro q hq hdvd
    have hprod : q ∣ primes.prod := hq.dvd_of_dvd_pow (hdvd.trans all)
    have hprimes := List.forall_iff_forall_mem.1 prime
    exact mem_list_primes_of_dvd_prod hq.prime (fun r hr => (hprimes r hr).prime) hprod
  apply lucas_primality p (a : ZMod p)
  · rw [hcast (p - 1) (by omega), hone]
    exact one
  · intro q hq hdvd
    have hle : (p - 1) / q ≤ p - 1 := Nat.div_le_self (p - 1) q
    rw [ne_eq, hcast _ (by omega), hone]
    exact others q (hmem q hq hdvd)

theorem prime_2773320623 : Nat.Prime 2773320623 := by
  apply prime_of_powMod 5 [2, 2437, 569003] (by decide) (by decide +kernel)
  · exact ⟨by norm_num, by norm_num, by norm_num⟩
  · decide +kernel
  · decide +kernel

theorem prime_72106336199 : Nat.Prime 72106336199 := by
  apply prime_of_powMod 7 [2, 13, 2773320623] (by decide) (by decide +kernel)
  · exact ⟨by norm_num, by norm_num, prime_2773320623⟩
  · decide +kernel
  · decide +kernel

theorem prime_1919519569386763 : Nat.Prime 1919519569386763 := by
  apply prime_of_powMod 2 [2, 3, 7, 19, 47, 127, 8574133] (by decide) (by decide +kernel)
  · refine ⟨?_, ?_, ?_, ?_, ?_, ?_, ?_⟩ <;> norm_num
  · decide +kernel
  · decide +kernel

theorem prime_75445702479781427272750846543864801 :
    Nat.Prime 75445702479781427272750846543864801 := by
  apply prime_of_powMod 7 [2, 3, 5, 75707, 72106336199, 1919519569386763] (by decide)
    (by decide +kernel)
  · exact ⟨by norm_num, by norm_num, by norm_num, by norm_num, prime_72106336199,
      prime_1919519569386763⟩
  · decide +kernel
  · decide +kernel

theorem prime_31757755568855353 : Nat.Prime 31757755568855353 := by
  apply prime_of_powMod 10 [2, 3, 31, 107, 223, 4153, 430751] (by decide) (by decide +kernel)
  · refine ⟨?_, ?_, ?_, ?_, ?_, ?_, ?_⟩ <;> norm_num
  · decide +kernel
  · decide +kernel

/-- The largest of the primes that divide 2^255 - 20. -/
theorem prime_cofactor :
    Nat.Prime 74058212732561358302231226437062788676166966415465897661863160754340907 := by
  apply prime_of_powMod 2
    [2, 3, 353, 57467, 132049, 1923133, 31757755568855353, 75445702479781427272750846543864801]
    (by decide) (by decide +kernel)
  · exact ⟨by norm_num, by norm_num, by norm_num, by norm_num, by norm_num, by norm_num,
      prime_31757755568855353, prime_75445702479781427272750846543864801⟩
  · decide +kernel
  · decide +kernel

theorem prime_prime : Nat.Prime prime := by
  apply prime_of_powMod 2
    [2, 3, 65147, 74058212732561358302231226437062788676166966415465897661863160754340907]
    (by decide) (by decide +kernel)
  · exact ⟨by norm_num, by norm_num, by norm_num,
      prime_cofactor⟩
  · decide +kernel
  · decide +kernel

/-! ## The field -/

open scoped Fin.CommRing

namespace Element

theorem pow_eq (a : Element) {k : Nat} (hk : k < 2 ^ 255) : a.pow k = a ^ k := by
  have step : ∀ m acc (bit : Bool), acc = a ^ m →
      (if bit then acc * acc * a else acc * acc) = a ^ (2 * m + bit.toNat) := by
    intro m acc bit hacc
    subst hacc
    cases bit with
    | false => simp only [Bool.false_eq_true, ↓reduceIte, Bool.toNat_false, Nat.add_zero, Nat.two_mul,
        pow_add]
    | true => simp only [↓reduceIte, Bool.toNat_true, Nat.two_mul, pow_add, pow_one]
  have hpow := foldl_lowBits (P := fun m acc => acc = a ^ m) step k 255 (m := 0)
    (a := 1) (pow_zero a).symm
  rw [Nat.zero_mul, Nat.zero_add, Nat.mod_eq_of_lt hk] at hpow
  exact hpow

theorem pow_prime_sub_one {a : Element} (ha : a ≠ 0) : a ^ (prime - 1) = 1 := by
  have : Fact prime.Prime := ⟨prime_prime⟩
  have hcast : ZMod.finEquiv prime a ≠ 0 := by
    rw [ne_eq, map_eq_zero_iff _ (ZMod.finEquiv prime).injective]
    exact ha
  apply (ZMod.finEquiv prime).injective
  rw [map_pow, map_one]
  exact ZMod.pow_card_sub_one_eq_one hcast

theorem mul_inverse {a : Element} (ha : a ≠ 0) : a * a.inverse = 1 := by
  rw [inverse, pow_eq a (by decide), ← pow_succ']
  exact pow_prime_sub_one ha

theorem inverse_zero : inverse 0 = 0 := by
  decide +kernel

theorem isField : IsField Element where
  exists_pair_ne := ⟨0, 1, by decide⟩
  mul_comm := mul_comm
  mul_inv_cancel ha := ⟨_, mul_inverse ha⟩

noncomputable instance : Field Element :=
  isField.toField

/-- A square other than 0 has the power 1 that a non-square has not. -/
theorem pow_of_isSquare {a : Element} (ha : a ≠ 0) (h : IsSquare a) :
    a.pow ((prime - 1) / 2) = 1 := by
  obtain ⟨b, rfl⟩ := h
  have hb : b ≠ 0 := left_ne_zero_of_mul ha
  have hhalf : 2 * ((prime - 1) / 2) = prime - 1 := by decide
  rw [pow_eq _ (by decide), ← pow_two, ← pow_mul, hhalf]
  exact pow_prime_sub_one hb

end Element

end DuplexHandshake.Curve25519
