import DuplexHandshake.Proofs.Transcript.Lockstep
import DuplexHandshake.Transcript.Recorder

/-!
# What may be asked of any transcript

A transcript can be of another make than the one over a duplex. What a handshake relies on is little:
opening fails for one reason only, a sealed segment has the length of its text and a tag, and the tags
keep the length that was chosen for them. A statement that needs less than all of this asks for the
part of it that it needs.
-/

namespace DuplexHandshake

/-- Nothing that happens to a transcript on the way of a message changes the length of its tags. -/
structure Transcript.Steady (T : Type) [Transcript T] : Prop where
  tagLength_sendClear : ∀ (t : T) (data : Bytes), tagLength (sendClear t data) = tagLength t
  tagLength_receiveClear : ∀ (t : T) (data : Bytes), tagLength (receiveClear t data) = tagLength t
  tagLength_encrypt : ∀ (t : T) (text associated : Bytes),
    tagLength (encrypt t text associated).2 = tagLength t
  tagLength_decrypt : ∀ (t : T) (sealed associated : Bytes),
    tagLength (decrypt t sealed associated).2 = tagLength t
  tagLength_mixKey : ∀ (t : T) (secret : Bytes), tagLength (mixKey t secret) = tagLength t

/-- The laws that a handshake relies on. -/
structure Transcript.Lawful (T : Type) [Transcript T] : Prop extends Transcript.Steady T where
  error_of_decrypt : ∀ {t : T} {sealed associated : Bytes} {e : HandshakeError},
    (decrypt t sealed associated).1 = .error e → e = .authenticationFailure
  length_encrypt : ∀ (t : T) (text associated : Bytes),
    (encrypt t text associated).1.length = text.length + tagLength t
  tagLength_setTagLength : ∀ (t : T) (length : Nat),
    (setTagLength t length).1 = .ok () → tagLength (setTagLength t length).2 = length
  tagLength_mixData : ∀ (t : T) (data : Bytes), tagLength (mixData t data) = tagLength t

/-- Sealing adds a tag to a text, opening takes it off, and its length is one and the same. -/
structure Transcript.Sized (T : Type) [Transcript T] : Prop extends Transcript.Steady T where
  length_encrypt : ∀ (t : T) (text associated : Bytes),
    (encrypt t text associated).1.length = text.length + tagLength t
  length_decrypt : ∀ {t : T} {sealed associated text : Bytes},
    (decrypt t sealed associated).1 = .ok text → text.length + tagLength t = sealed.length

/-- A segment that is too short to hold a tag is not authentic, and no segment is malformed. -/
structure Transcript.Strict (T : Type) [Transcript T] : Prop where
  decrypt_of_short : ∀ {t : T} {sealed : Bytes} (associated : Bytes), sealed.length < tagLength t →
    (decrypt t sealed associated).1 = .error .authenticationFailure
  not_malformed : ∀ (t : T) (sealed associated : Bytes),
    (decrypt t sealed associated).1 ≠ .error .malformedMessage

theorem TagLength.bytes_of_ofBytes? {length : Nat} {tag : TagLength} (h : ofBytes? length = some tag) :
    tag.bytes = length := by
  unfold ofBytes? at h
  split at h
  · cases h
    rfl
  · cases h
    rfl
  · cases h

namespace DuplexTranscript

variable {permute : Block → Block}

theorem tagLength_of_setTagLength (t : DuplexTranscript permute) (length : Nat)
    (h : (t.setTagLength length).1 = .ok ()) : (t.setTagLength length).2.tag.bytes = length := by
  unfold setTagLength at h ⊢
  cases htag : TagLength.ofBytes? length with
  | none =>
    rw [htag] at h
    cases h
  | some tag => exact TagLength.bytes_of_ofBytes? htag

theorem tag_decrypt (t : DuplexTranscript permute) (sealed associated : Bytes) :
    (t.decrypt sealed associated).2.tag = t.tag := by
  unfold decrypt
  split <;> rfl

/-- The transcript over a duplex is lawful, whatever the permutation. -/
theorem lawful : Transcript.Lawful (DuplexTranscript permute) where
  error_of_decrypt := error_of_decrypt
  length_encrypt := length_encrypt
  tagLength_setTagLength := tagLength_of_setTagLength
  tagLength_mixData _ _ := rfl
  tagLength_sendClear _ _ := rfl
  tagLength_receiveClear _ _ := rfl
  tagLength_encrypt _ _ _ := rfl
  tagLength_decrypt t sealed associated := congrArg TagLength.bytes (t.tag_decrypt sealed associated)
  tagLength_mixKey _ _ := rfl

/-- A segment without room for a tag is refused untouched. -/
theorem decrypt_of_short {t : DuplexTranscript permute} {sealed : Bytes} (associated : Bytes)
    (h : sealed.length < t.tag.bytes) :
    t.decrypt sealed associated = (.error .authenticationFailure, t) := by
  rw [decrypt, if_pos h]

theorem length_decrypt {t : DuplexTranscript permute} {sealed associated text : Bytes}
    (h : (t.decrypt sealed associated).1 = .ok text) :
    text.length + t.tag.bytes = sealed.length := by
  by_cases hshort : sealed.length < t.tag.bytes
  · rw [decrypt_of_short associated hshort] at h
    cases h
  · obtain ⟨body, tag, rfl, htag⟩ := t.exists_append_of_le hshort
    have hbody : (t.duplex.receiveEncrypted body).1.length = body.length :=
      Strobe.Duplex.length_run _ _ _
    rw [decrypt_append t body tag associated htag] at h
    split at h
    · cases h
      rw [hbody, List.length_append, htag]
    · cases h

theorem sized : Transcript.Sized (DuplexTranscript permute) where
  toSteady := lawful.toSteady
  length_encrypt := length_encrypt
  length_decrypt := length_decrypt

theorem strict : Transcript.Strict (DuplexTranscript permute) where
  decrypt_of_short associated hshort := congrArg Prod.fst (decrypt_of_short associated hshort)
  not_malformed t sealed associated herror := by
    have hkind := error_of_decrypt herror
    cases hkind

end DuplexTranscript

namespace Recorder

variable {policy : TagPolicy}

theorem length_decrypt {r : Recorder policy} {sealed associated text : Bytes}
    (h : (r.decrypt sealed associated).1 = .ok text) :
    text.length + r.tagLength = sealed.length := by
  unfold decrypt at h
  by_cases hshort : sealed.length < r.tagLength
  · simp only [if_pos hshort, reduceCtorEq] at h
  · simp only [if_neg hshort, List.splitAt_eq] at h
    split at h
    · cases h
      rw [List.length_take]
      omega
    · cases h

/-- A record has lengths like any transcript, whatever length of tags it insists on. -/
theorem sized : Transcript.Sized (Recorder policy) where
  tagLength_sendClear _ _ := rfl
  tagLength_receiveClear _ _ := rfl
  tagLength_encrypt _ _ _ := rfl
  tagLength_decrypt r sealed associated := by
    show (r.decrypt sealed associated).2.tagLength = r.tagLength
    unfold decrypt
    dsimp only
    split <;> rfl
  tagLength_mixKey _ _ := rfl
  length_encrypt r text associated := by
    show (text ++ List.replicate r.tagLength tagByte).length = text.length + r.tagLength
    rw [List.length_append, List.length_replicate]
  length_decrypt := length_decrypt

theorem error_of_decrypt {r : Recorder policy} {sealed associated : Bytes} {e : HandshakeError}
    (h : (Transcript.decrypt r sealed associated).1 = .error e) : e = .authenticationFailure := by
  have hrecord : (r.decrypt sealed associated).1 = .error e := h
  unfold decrypt at hrecord
  dsimp only at hrecord
  split at hrecord
  · exact (Except.error.inj hrecord).symm
  · dsimp only at hrecord
    split at hrecord
    · cases hrecord
    · exact (Except.error.inj hrecord).symm

theorem strict : Transcript.Strict (Recorder policy) where
  decrypt_of_short {r sealed} associated hshort := by
    show (r.decrypt sealed associated).1 = .error .authenticationFailure
    have hlength : sealed.length < r.tagLength := hshort
    rw [decrypt, if_pos hlength]
  not_malformed r sealed associated herror := by
    have hkind := error_of_decrypt herror
    cases hkind

end Recorder

end DuplexHandshake
