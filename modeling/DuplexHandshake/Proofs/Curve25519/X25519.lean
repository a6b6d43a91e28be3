import DuplexHandshake.Curve25519.X25519
import DuplexHandshake.Proofs.Curve25519.LowOrder

/-!
# X25519 with a key of low order

Every secret key becomes a factor divisible by eight. So a public key that stands for a coordinate of low
order gives zeros with every secret key, and these are no secret. Each such coordinate has as many forms as
there are numbers below 2^255 that stand for it, twice over for the top bit.
-/

namespace DuplexHandshake.X25519

open Curve25519

/-! ## Factors -/

theorem toNat_mod_eight (key : KeyBytes) : toNat key % 8 = key[0].toNat % 8 := by
  have hcons : key.toList = key[0] :: key.toList.tail := by
    have hlength : 0 < key.toList.length := by
      rw [Vector.length_toList]
      decide
    rw [← Vector.getElem_toList hlength, List.getElem_zero, List.cons_head_tail]
  rw [toNat, hcons, List.foldr_cons]
  omega

theorem factor_mod_eight (secret : SecretKey) : factor secret % 8 = 0 := by
  have hlow : (clamp secret.bytes)[0] = secret.bytes[0] &&& 248 := by
    rw [clamp, Vector.getElem_set_ne (by decide) (by decide) (by decide), Vector.getElem_set_self]
  have hcleared : (secret.bytes[0].toNat &&& 248) % 2 ^ 3 = 0 := by
    rw [Nat.and_mod_two_pow]
    exact Nat.and_zero _
  rw [factor, toNat_mod_eight, hlow, UInt8.toNat_and]
  exact hcleared

/-! ## Keys of low order -/

theorem ofNat_zero : ofNat 0 = Vector.replicate keyLength 0 := by
  ext i hi
  simp [ofNat]

theorem combine_of_lowOrder (secret : SecretKey) {peer : PublicKey}
    (low : LowOrder (coordinate peer)) : combine secret peer = Vector.replicate keyLength 0 := by
  obtain ⟨circle⟩ := nonempty_circle (lowOrder_iff.1 low)
  rw [combine, circle.multiple_eq_zero (factor_mod_eight secret)]
  exact ofNat_zero

/-- The numbers below 2^255 that stand for coordinates of low order: the least ones, and the two that 0 and 1
have besides. -/
def lowNumbers : List Nat :=
  [0, 1, prime - 1, eighth.val, eighth'.val, prime, prime + 1]

theorem mod_prime_eq_iff {n x : Nat} (hn : n < 2 ^ 255) (hx : x < prime) :
    n % prime = x ↔ n = x ∨ n = prime + x := by
  have htwice : 2 ^ 255 ≤ 2 * prime := by decide
  by_cases hless : n < prime
  · rw [Nat.mod_eq_of_lt hless]
    omega
  · rw [Nat.mod_eq_sub_mod (by omega), Nat.mod_eq_of_lt (by omega)]
    omega

/-- All keys of low order: in the least form or not, with the top bit or without. -/
theorem lowOrder_coordinate_iff (key : PublicKey) :
    LowOrder (coordinate key) ↔ toNat key.bytes % 2 ^ 255 ∈ lowNumbers := by
  have hn : toNat key.bytes % 2 ^ 255 < 2 ^ 255 := Nat.mod_lt _ (by decide)
  have hmem : ∀ u : Element, coordinate key = u ↔
      toNat key.bytes % 2 ^ 255 = u.val ∨ toNat key.bytes % 2 ^ 255 = prime + u.val := by
    intro u
    rw [Fin.ext_iff, ← mod_prime_eq_iff hn u.isLt]
    rfl
  have hzero : (0 : Element).val = 0 := rfl
  have hone : (1 : Element).val = 1 := rfl
  have hneg : (-1 : Element).val = prime - 1 := by decide +kernel
  have hprime : 2 ^ 255 < 2 * prime - 1 := by decide
  have heighth : 2 ^ 255 < prime + eighth.val := by decide +kernel
  have heighth' : 2 ^ 255 < prime + eighth'.val := by decide +kernel
  rw [lowOrder_iff]
  simp only [lowCoordinates, lowNumbers, List.mem_cons, List.not_mem_nil, or_false, hmem, hzero, hone,
    hneg]
  omega

end DuplexHandshake.X25519
