import DuplexHandshake.Proofs.Curve25519.X25519
import DuplexHandshake.Proofs.Handshake.Reach

/-!
# Keys of low order in a handshake

Whoever sends a key of low order knows what every secret key makes of it. Such a key is never mixed: a write
or a read that comes to a token which needs it, and has a pair of its own for it, stops there. The caller
gets nothing, and the handshake stays where it was.
-/

namespace DuplexHandshake

open Curve25519 (LowOrder lowCoordinates)
open X25519 (coordinate lowNumbers)

/-- For the secret of a token a party has a pair of its own, and of the peer a key of low order. -/
def Keyring.Poisoned (k : Keyring) (role : Role) : Token → Prop
  | .send _ => False
  | .mix initiator responder =>
    (k.own (role.select initiator responder)).isSome ∧
      ∃ key, k.peer (role.select responder initiator) = some key ∧ LowOrder (coordinate key)

theorem Keyring.Poisoned.weak {k : Keyring} {role : Role} {t : Token} (h : k.Poisoned role t) :
    k.weak x25519 role t := by
  cases t with
  | send kind => exact h.elim
  | mix initiator responder =>
    obtain ⟨hown, key, hpeer, low⟩ := h
    obtain ⟨pair, hpair⟩ := Option.isSome_iff_exists.1 hown
    have hzeros : x25519.combine pair.secret key = Vector.replicate keyLength 0 :=
      X25519.combine_of_lowOrder pair.secret low
    simp only [Keyring.weak, hpair, hpeer, hzeros, decide_true]

namespace Handshake

variable {K : KeyAgreement} {T : Type} [Transcript T]

/-- An outcome that is refused for a bad key, with nothing delivered and no step taken. -/
structure KeyRefused (h : Handshake K T) (buffer : Bytes) (o : Outcome K T) : Prop where
  result : o.result = .error .badKey
  buffer : o.buffer = buffer
  pattern : o.state.pattern = h.pattern
  done : o.state.done = h.done

theorem Attempt.keyRefused {h : Handshake K T} {buffer : Bytes} {o : Outcome K T}
    (attempt : h.Attempt buffer o) (result : o.result = .error .badKey) : h.KeyRefused buffer o := by
  refine ⟨result, attempt.buffer_of_error result, attempt.pattern_eq, ?_⟩
  cases attempt with
  | ended | malformed | stopped => rfl
  | finished t keys appended report =>
    rw [finishStep_eq] at result
    split at result <;> cases result

end Handshake

/-- What becomes of keys of low order. -/
structure LowOrderRefused : Prop where
  /-- There are five coordinates of points whose order divides 8. -/
  coordinates : ∀ u, LowOrder u ↔ u ∈ lowCoordinates
  /-- The keys that stand for one of them, whatever their top bit. -/
  keys : ∀ key, LowOrder (coordinate key) ↔ X25519.toNat key.bytes % 2 ^ 255 ∈ lowNumbers
  /-- No secret key makes a secret of them. -/
  sharedSecret : ∀ pair key, LowOrder (coordinate key) →
    x25519.sharedSecret pair key = .error .badKey
  write : ∀ (T : Type) [Transcript T] (h : Handshake x25519 T) random token w,
    h.WriteReaches random token w → w.keys.Poisoned h.role token →
      ∀ payload buffer, h.KeyRefused buffer (h.write payload buffer random).1
  read : ∀ (T : Type) [Transcript T] (h : Handshake x25519 T) message token r,
    h.ReadReaches message token r → r.keys.Poisoned h.role token →
      ∀ buffer, h.KeyRefused buffer (h.read message buffer)

/-- Keys of low order are refused, by themselves and wherever a handshake comes upon them. -/
theorem lowOrderRefused : LowOrderRefused where
  coordinates _ := Curve25519.lowOrder_iff
  keys := X25519.lowOrder_coordinate_iff
  sharedSecret pair key low := by
    have hzeros : x25519.combine pair.secret key = Vector.replicate keyLength 0 :=
      X25519.combine_of_lowOrder pair.secret low
    rw [KeyAgreement.sharedSecret, hzeros]
    rfl
  write T _ h random token w reaches poisoned payload buffer :=
    (h.attempt_write payload buffer random).keyRefused
      (Handshake.write_of_weak reaches poisoned.weak payload buffer)
  read T _ h message token r reaches poisoned buffer :=
    (h.attempt_read message buffer).keyRefused
      (Handshake.read_of_weak reaches poisoned.weak buffer)

end DuplexHandshake
