import DuplexHandshake.Proofs.Strobe.Mirror
import DuplexHandshake.Role
import DuplexHandshake.Transcript.Duplex

/-!
# Transcripts in step

The transcripts of two sides are in step when their duplexes mirror each other and their tags have
one length. Whatever the two sides do together keeps them in step and tells both the same, and of
all sealed segments each side opens exactly those that the other would have sealed.
-/

namespace DuplexHandshake

/-! ## What two sides do together -/

/-- Something that two sides do together. The first of two transcripts is the initiator's. -/
inductive Joint where
  | mixData (data : Bytes)
  | mixMetadata (data : Bytes)
  | mixKey (secret : Bytes)
  | ratchet (length : Nat)
  | prf (length : Nat)
  | setTagLength (length : Nat)
  | clear (sender : Role) (data : Bytes)
  | sealed (sender : Role) (text associated : Bytes)

namespace Joint

variable {T : Type} [Transcript T]

/-- What a side is told. -/
abbrev Gain := Except HandshakeError Bytes

/-- What both sides are told, and their transcripts afterwards. A side that seals a text has it. -/
def perform : Joint → T × T → (Gain × Gain) × T × T
  | mixData data, (a, b) =>
    ((.ok [], .ok []), Transcript.mixData a data, Transcript.mixData b data)
  | mixMetadata data, (a, b) =>
    ((.ok [], .ok []), Transcript.mixMetadata a data, Transcript.mixMetadata b data)
  | mixKey secret, (a, b) =>
    ((.ok [], .ok []), Transcript.mixKey a secret, Transcript.mixKey b secret)
  | ratchet length, (a, b) =>
    ((.ok [], .ok []), Transcript.ratchet a length, Transcript.ratchet b length)
  | prf length, (a, b) =>
    let (x, a) := Transcript.prf a length
    let (y, b) := Transcript.prf b length
    ((.ok x, .ok y), a, b)
  | setTagLength length, (a, b) =>
    let (x, a) := Transcript.setTagLength a length
    let (y, b) := Transcript.setTagLength b length
    ((x.map fun _ => [], y.map fun _ => []), a, b)
  | clear .initiator data, (a, b) =>
    ((.ok [], .ok []), Transcript.sendClear a data, Transcript.receiveClear b data)
  | clear .responder data, (a, b) =>
    ((.ok [], .ok []), Transcript.receiveClear a data, Transcript.sendClear b data)
  | sealed .initiator text associated, (a, b) =>
    let (segment, a) := Transcript.encrypt a text associated
    let (opened, b) := Transcript.decrypt b segment associated
    ((.ok text, opened), a, b)
  | sealed .responder text associated, (a, b) =>
    let (segment, b) := Transcript.encrypt b text associated
    let (opened, a) := Transcript.decrypt a segment associated
    ((opened, .ok text), a, b)

def performAll : List Joint → T × T → List (Gain × Gain) × T × T
  | [], sides => ([], sides)
  | joint :: rest, sides =>
    let (gains, sides) := joint.perform sides
    let (later, sides) := performAll rest sides
    (gains :: later, sides)

end Joint

namespace DuplexTranscript

variable {permute : Block → Block} {a b : DuplexTranscript permute}

/-! ## Sealing and opening -/

theorem encrypt_eq (t : DuplexTranscript permute) (text associated : Bytes) :
    t.encrypt text associated =
      ((t.duplex.sendEncrypted text).1 ++
          (((t.duplex.sendEncrypted text).2.mixData associated).sendMac t.tag.bytes).1,
        { t with
          duplex := (((t.duplex.sendEncrypted text).2.mixData associated).sendMac t.tag.bytes).2 }) :=
  rfl

theorem decrypt_append (t : DuplexTranscript permute) (body tag associated : Bytes)
    (htag : tag.length = t.tag.bytes) :
    t.decrypt (body ++ tag) associated =
      (if (((t.duplex.receiveEncrypted body).2.mixData associated).receiveMac tag).1
        then .ok (t.duplex.receiveEncrypted body).1 else .error .authenticationFailure,
        { t with
          duplex := (((t.duplex.receiveEncrypted body).2.mixData associated).receiveMac tag).2 }) := by
  have hlength : (body ++ tag).length = body.length + t.tag.bytes := by
    rw [List.length_append, htag]
  have hsplit : (body ++ tag).splitAt body.length = (body, tag) := by
    rw [List.splitAt_eq, List.take_left, List.drop_left]
  unfold decrypt
  rw [if_neg (by omega), hlength, Nat.add_sub_cancel, hsplit]

theorem exists_append_of_le (t : DuplexTranscript permute) {sealed : Bytes}
    (h : ¬ sealed.length < t.tag.bytes) :
    ∃ body tag, sealed = body ++ tag ∧ tag.length = t.tag.bytes := by
  refine ⟨sealed.take (sealed.length - t.tag.bytes), sealed.drop (sealed.length - t.tag.bytes),
    (List.take_append_drop _ _).symm, ?_⟩
  rw [List.length_drop]
  omega

theorem error_of_decrypt {t : DuplexTranscript permute} {sealed associated : Bytes}
    {e : HandshakeError} (h : (Transcript.decrypt t sealed associated).1 = .error e) :
    e = .authenticationFailure := by
  have hduplex : (t.decrypt sealed associated).1 = .error e := h
  by_cases hshort : sealed.length < t.tag.bytes
  · rw [decrypt, if_pos hshort] at hduplex
    exact (Except.error.inj hduplex).symm
  · rcases t.exists_append_of_le hshort with ⟨body, tag, rfl, htag⟩
    rw [decrypt_append t body tag associated htag] at hduplex
    split at hduplex
    · cases hduplex
    · exact (Except.error.inj hduplex).symm

theorem length_encrypt (t : DuplexTranscript permute) (text associated : Bytes) :
    (Transcript.encrypt t text associated).1.length = text.length + Transcript.tagLength t := by
  show (t.encrypt text associated).1.length = text.length + t.tag.bytes
  have hbody : (t.duplex.sendEncrypted text).1.length = text.length :=
    Strobe.Duplex.length_run _ _ _
  rw [encrypt_eq, List.length_append, Strobe.Duplex.length_sendMac, hbody]

/-! ## Being in step -/

/-- Two transcripts in step: duplexes that mirror each other, and tags of one length. -/
structure InSync (a b : DuplexTranscript permute) : Prop where
  duplex : a.duplex.Mirrors b.duplex
  tag : a.tag = b.tag

namespace InSync

theorem symm (h : InSync a b) : InSync b a :=
  ⟨h.duplex.symm, h.tag.symm⟩

theorem tagLength (h : InSync a b) : Transcript.tagLength a = Transcript.tagLength b :=
  congrArg TagLength.bytes h.tag

theorem start (label : Bytes) :
    InSync (Transcript.start label : DuplexTranscript permute) (Transcript.start label) :=
  ⟨((Strobe.Duplex.Mirrors.refl_of_unset rfl).addData .metadata label).2, rfl⟩

theorem mixData (h : InSync a b) (data : Bytes) :
    InSync (Transcript.mixData a data) (Transcript.mixData b data) :=
  ⟨(h.duplex.addData .data data).2, h.tag⟩

theorem mixMetadata (h : InSync a b) (data : Bytes) :
    InSync (Transcript.mixMetadata a data) (Transcript.mixMetadata b data) :=
  ⟨(h.duplex.addData .metadata data).2, h.tag⟩

theorem mixKey (h : InSync a b) (secret : Bytes) :
    InSync (Transcript.mixKey a secret) (Transcript.mixKey b secret) :=
  ⟨(h.duplex.putData .key secret).2, h.tag⟩

theorem ratchet (h : InSync a b) (n : Nat) :
    InSync (Transcript.ratchet a n) (Transcript.ratchet b n) :=
  ⟨(h.duplex.putData .ratchet (List.replicate n 0)).2, h.tag⟩

theorem prf (h : InSync a b) (n : Nat) :
    (Transcript.prf a n).1 = (Transcript.prf b n).1 ∧
      InSync (Transcript.prf a n).2 (Transcript.prf b n).2 := by
  have hput := h.duplex.putData .prf (List.replicate n 0)
  exact ⟨hput.1, hput.2, h.tag⟩

theorem setTagLength (h : InSync a b) (n : Nat) :
    (Transcript.setTagLength a n).1 = (Transcript.setTagLength b n).1 ∧
      InSync (Transcript.setTagLength a n).2 (Transcript.setTagLength b n).2 := by
  show (a.setTagLength n).1 = (b.setTagLength n).1 ∧
    InSync (a.setTagLength n).2 (b.setTagLength n).2
  unfold DuplexTranscript.setTagLength
  cases TagLength.ofBytes? n with
  | none => exact ⟨rfl, h⟩
  | some tag => exact ⟨rfl, h.duplex, rfl⟩

theorem clear (h : InSync a b) (data : Bytes) :
    InSync (Transcript.sendClear a data) (Transcript.receiveClear b data) :=
  ⟨(h.duplex.addData .sendClear data).2, h.tag⟩

/-- What one side seals the other opens, and finds the text. -/
theorem decrypt_encrypt (h : InSync a b) (text associated : Bytes) :
    (Transcript.decrypt b (Transcript.encrypt a text associated).1 associated).1 = .ok text ∧
      InSync (Transcript.encrypt a text associated).2
        (Transcript.decrypt b (Transcript.encrypt a text associated).1 associated).2 := by
  show (b.decrypt (a.encrypt text associated).1 associated).1 = .ok text ∧
    InSync (a.encrypt text associated).2 (b.decrypt (a.encrypt text associated).1 associated).2
  have hbody := h.duplex.receiveEncrypted text
  have hmac := (hbody.2.addData .data associated).2.receiveMac a.tag.bytes
  have htag : (((a.duplex.sendEncrypted text).2.mixData associated).sendMac a.tag.bytes).1.length =
      b.tag.bytes := by
    rw [Strobe.Duplex.length_sendMac, h.tag]
  rw [encrypt_eq, decrypt_append b _ _ associated htag, hbody.1]
  exact ⟨if_pos hmac.1, hmac.2, h.tag⟩

/-- What one side opens the other would have sealed. -/
theorem encrypt_of_decrypt (h : InSync a b) {sealed text associated : Bytes}
    (hopen : (b.decrypt sealed associated).1 = .ok text) :
    (a.encrypt text associated).1 = sealed := by
  have hlong : ¬ sealed.length < b.tag.bytes := by
    intro hshort
    rw [decrypt, if_pos hshort] at hopen
    cases hopen
  rcases b.exists_append_of_le hlong with ⟨body, tag, rfl, htag⟩
  rw [decrypt_append b body tag associated htag] at hopen
  split at hopen
  · next hgenuine =>
    cases hopen
    -- The body is what the other side would have made of the text, and so is then the tag.
    have hbody := (h.duplex.receiveEncrypted_eq_iff _ body).1 rfl
    have hmirrors := (h.duplex.receiveEncrypted (b.duplex.receiveEncrypted body).1).2
    rw [hbody] at hmirrors
    have hmac := ((hmirrors.addData .data associated).2.receiveMac_iff tag).1 hgenuine
    rw [encrypt_eq, hbody, h.tag, ← htag]
    exact congrArg (body ++ ·) hmac
  · cases hopen

/-! ## In step for good -/

/-- One thing done together tells both sides the same and leaves them in step. -/
theorem perform (h : InSync a b) (joint : Joint) :
    (joint.perform (a, b)).1.1 = (joint.perform (a, b)).1.2 ∧
      InSync (joint.perform (a, b)).2.1 (joint.perform (a, b)).2.2 := by
  cases joint with
  | mixData data => exact ⟨rfl, h.mixData data⟩
  | mixMetadata data => exact ⟨rfl, h.mixMetadata data⟩
  | mixKey secret => exact ⟨rfl, h.mixKey secret⟩
  | ratchet length => exact ⟨rfl, h.ratchet length⟩
  | prf length =>
    have hprf := h.prf length
    exact ⟨congrArg Except.ok hprf.1, hprf.2⟩
  | setTagLength length =>
    have htag := h.setTagLength length
    exact ⟨congrArg (Except.map fun _ => []) htag.1, htag.2⟩
  | clear sender data =>
    cases sender with
    | initiator => exact ⟨rfl, h.clear data⟩
    | responder => exact ⟨rfl, (h.symm.clear data).symm⟩
  | sealed sender text associated =>
    cases sender with
    | initiator =>
      have hopen := h.decrypt_encrypt text associated
      exact ⟨hopen.1.symm, hopen.2⟩
    | responder =>
      have hopen := h.symm.decrypt_encrypt text associated
      exact ⟨hopen.1, hopen.2.symm⟩

theorem performAll (h : InSync a b) (joints : List Joint) :
    (∀ gains ∈ (Joint.performAll joints (a, b)).1, gains.1 = gains.2) ∧
      InSync (Joint.performAll joints (a, b)).2.1 (Joint.performAll joints (a, b)).2.2 := by
  induction joints generalizing a b with
  | nil => exact ⟨by simp [Joint.performAll], h⟩
  | cons joint rest ih =>
    have hfirst := h.perform joint
    have hrest := ih hfirst.2
    refine ⟨?_, hrest.2⟩
    intro gains hmem
    rcases List.mem_cons.1 hmem with rfl | hlater
    · exact hfirst.1
    · exact hrest.1 gains hlater

end InSync

/-- Two transcripts in step stay in step through any number of things done together, which tell both
sides the same; and each opens exactly what the other would have sealed. -/
theorem inSync_performAll_and_decrypt_iff (h : InSync a b) :
    (∀ joints : List Joint,
      (∀ gains ∈ (Joint.performAll joints (a, b)).1, gains.1 = gains.2) ∧
        InSync (Joint.performAll joints (a, b)).2.1 (Joint.performAll joints (a, b)).2.2) ∧
      ∀ sealed text associated : Bytes,
        (Transcript.decrypt b sealed associated).1 = .ok text ↔
          (Transcript.encrypt a text associated).1 = sealed := by
  refine ⟨h.performAll, ?_⟩
  intro sealed text associated
  constructor
  · exact h.encrypt_of_decrypt
  · rintro rfl
    exact (h.decrypt_encrypt text associated).1

/-- After a message in the clear the marks of direction are opposite, and an answer is opened. -/
theorem inSync_performAll_and_decrypt_iff_after_clear :
    let a : DuplexTranscript Keccak.permute :=
      Transcript.sendClear (Transcript.start [76]) [1, 2, 3]
    let b : DuplexTranscript Keccak.permute :=
      Transcript.receiveClear (Transcript.start [76]) [1, 2, 3]
    InSync a b ∧
      InSync (Joint.performAll [.sealed .responder [9] [], .prf 200] (a, b)).2.1
        (Joint.performAll [.sealed .responder [9] [], .prf 200] (a, b)).2.2 ∧
      (Transcript.decrypt b (Transcript.encrypt a [7, 8] [5]).1 [5]).1 = .ok [7, 8] := by
  intro a b
  have hsync : InSync a b := (InSync.start [76]).clear [1, 2, 3]
  have hboth := inSync_performAll_and_decrypt_iff hsync
  -- Only that the two are in step counts from here on, not their 200 bytes.
  clear_value a b
  have hjoint := hboth.1 [.sealed .responder [9] [], .prf 200]
  have hopen := hboth.2 (Transcript.encrypt a [7, 8] [5]).1 [7, 8] [5]
  exact ⟨hsync, hjoint.2, hopen.2 rfl⟩

end DuplexTranscript

end DuplexHandshake
