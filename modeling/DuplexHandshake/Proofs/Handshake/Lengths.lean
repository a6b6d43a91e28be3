import DuplexHandshake.Proofs.Handshake.Exchange
import DuplexHandshake.Proofs.Handshake.Places
import DuplexHandshake.Proofs.Transcript.Lawful
import DuplexHandshake.Transcript.Recorder

/-!
# The lengths of messages

A message is as long as the keys of its step, a tag for every key that travels sealed, the payload and
the payload's tag. A writer appends just so many bytes, and a reader that accepts a message has taken
each of them off, one segment for each token. Nothing here depends on which transcript it is, as long
as sealing adds a tag and the tags keep their length.
-/

namespace DuplexHandshake

variable {K : KeyAgreement} {T : Type} [Transcript T] {role : Role} {tagLength : Nat}

/-! ## Tokens -/

/-- Only keys take up room, and those that travel sealed a tag's worth more. -/
theorem Step.tokenLength_eq_count (tagLength : Nat) (s : Step) :
    s.tokenLength tagLength =
      keyLength * s.tokens.count (.send .ephemeral) +
        (keyLength + tagLength) * s.tokens.count (.send .static) := by
  unfold tokenLength
  induction s.tokens with
  | nil => simp
  | cons t ts ih =>
    rw [List.foldr_cons, ih, List.count_cons, List.count_cons]
    cases t with
    | send kind =>
      cases kind <;> simp [Token.length, Nat.mul_add] <;> omega
    | mix initiator responder => simp [Token.length]

namespace Writer

theorem token_tagLength (K : KeyAgreement) (role : Role) (steady : Transcript.Steady T)
    (w : Writer T) (t : Token) :
    Transcript.tagLength (Interruption.last (w.token K role t)).transcript =
      Transcript.tagLength w.transcript := by
  unfold token
  split
  · exact steady.tagLength_sendClear _ _
  · cases w.keys.ownStatic with
    | none => rfl
    | some pair => exact steady.tagLength_encrypt _ _ _
  · split
    · rfl
    · exact steady.tagLength_mixKey _ _

theorem tokens_tagLength (K : KeyAgreement) (role : Role) (steady : Transcript.Steady T)
    (w : Writer T) (ts : List Token) :
    Transcript.tagLength (Interruption.last (w.tokens K role ts)).transcript =
      Transcript.tagLength w.transcript :=
  Interruption.last_foldlM
    (P := fun v : Writer T => Transcript.tagLength v.transcript = Transcript.tagLength w.transcript)
    (fun v t hv => (v.token_tagLength K role steady t).trans hv) rfl ts

theorem token_length
    (hseal : ∀ (t : T) (text associated : Bytes),
      (Transcript.encrypt t text associated).1.length = text.length + Transcript.tagLength t)
    {w next : Writer T} {t : Token} (h : w.token K role t = .ok next) :
    next.message.length = w.message.length + t.length (Transcript.tagLength w.transcript) := by
  unfold token at h
  split at h
  · cases h
    simp [Token.length]
  · split at h
    · cases h
    · next pair _ =>
      cases h
      show (w.message ++ (Transcript.encrypt w.transcript pair.publicKey.toBytes []).1).length = _
      rw [List.length_append, hseal, PublicKey.length_toBytes]
      rfl
  · split at h
    · cases h
    · cases h
      rfl

/-- The bytes that tokens add to a message. -/
theorem tokens_length (steady : Transcript.Steady T)
    (hseal : ∀ (t : T) (text associated : Bytes),
      (Transcript.encrypt t text associated).1.length = text.length + Transcript.tagLength t)
    {w last : Writer T} {ts : List Token} (h : w.tokens K role ts = .ok last) :
    last.message.length =
      w.message.length + (ts.map (Token.length (Transcript.tagLength w.transcript))).sum := by
  induction ts generalizing w with
  | nil =>
    cases h
    rfl
  | cons t ts ih =>
    rcases tokens_cons_eq_ok.1 h with ⟨next, hnext, hlast⟩
    have htag := w.token_tagLength K role steady t
    rw [hnext] at htag
    have hkept : Transcript.tagLength next.transcript = Transcript.tagLength w.transcript := htag
    rw [ih hlast, token_length hseal hnext, hkept, List.map_cons, List.sum_cons, Nat.add_assoc]

end Writer

namespace Reader

/-- Tokens that are read have taken as many bytes off the message as they take up. -/
theorem rest_of_tokens {r last : Reader T} {ts : List Token}
    (h : r.tokens K role tagLength ts = .ok last) :
    ∃ taken, r.rest = taken ++ last.rest ∧ taken.length = (ts.map (Token.length tagLength)).sum := by
  induction ts generalizing r with
  | nil =>
    cases h
    exact ⟨[], rfl, rfl⟩
  | cons t ts ih =>
    obtain ⟨next, hnext, hlast⟩ := tokens_cons_eq_ok.1 h
    obtain ⟨segment, htakes⟩ := token_eq_ok_iff.1 hnext
    obtain ⟨taken, htaken, hlength⟩ := ih hlast
    refine ⟨segment ++ taken, ?_, ?_⟩
    · rw [htakes.rest_eq, htaken, List.append_assoc]
    · rw [List.length_append, htakes.length_eq, hlength, List.map_cons, List.sum_cons]

theorem token_tagLength (K : KeyAgreement) (role : Role) (tagLength : Nat)
    (steady : Transcript.Steady T) (r : Reader T) (t : Token) :
    Transcript.tagLength (Interruption.last (r.token K role tagLength t)).transcript =
      Transcript.tagLength r.transcript := by
  unfold token
  split
  · unfold ephemeral
    split
    · rfl
    · split
      · rfl
      · exact steady.tagLength_receiveClear _ _
  · unfold static
    split
    · rfl
    · next segment rest _ =>
      have hopened := steady.tagLength_decrypt r.transcript segment []
      split
      · next hopen =>
        rw [hopen] at hopened
        exact hopened
      · next hopen =>
        rw [hopen] at hopened
        split <;> exact hopened
  · split
    · rfl
    · exact steady.tagLength_mixKey _ _

theorem tokens_tagLength (K : KeyAgreement) (role : Role) (tagLength : Nat)
    (steady : Transcript.Steady T) (r : Reader T) (ts : List Token) :
    Transcript.tagLength (Interruption.last (r.tokens K role tagLength ts)).transcript =
      Transcript.tagLength r.transcript :=
  Interruption.last_foldlM
    (P := fun v : Reader T => Transcript.tagLength v.transcript = Transcript.tagLength r.transcript)
    (fun v t hv => (v.token_tagLength K role tagLength steady t).trans hv) rfl ts

/-- Tokens that are read leave a transcript with tags of the length they had. -/
theorem tagLength_of_tokens (steady : Transcript.Steady T) {r last : Reader T} {ts : List Token}
    (h : r.tokens K role tagLength ts = .ok last) :
    Transcript.tagLength last.transcript = Transcript.tagLength r.transcript := by
  have hkept := r.tokens_tagLength K role tagLength steady ts
  rw [h] at hkept
  exact hkept

end Reader

/-! ## Messages -/

namespace Handshake

theorem tagLength_of_transcript {h : Handshake K T} {t : T} (ht : h.transcript = some t) :
    h.tagLength = Transcript.tagLength t := by
  rw [tagLength, ht]

theorem messageLength_of_step? {h : Handshake K T} {step : Step} (hstep : h.step? = some step)
    (payload : Nat) :
    h.messageLength payload = .ok (step.tokenLength h.tagLength + h.tagLength + payload) := by
  rw [messageLength, hstep]

/-- What a handshake says about the length of its next message. -/
structure Measured (h : Handshake K T) : Prop where
  formula : ∀ step payload, h.step? = some step →
    h.messageLength payload =
      .ok (keyLength * step.tokens.count (.send .ephemeral) +
        (keyLength + h.tagLength) * step.tokens.count (.send .static) + h.tagLength + payload)
  /-- The peer, at the same step of the same pattern and with tags of the same length, says so too. -/
  peer : ∀ (L : KeyAgreement) (U : Type) [Transcript U] (other : Handshake L U),
    other.role = h.role.other → other.pattern = h.pattern → other.done = h.done →
      other.tagLength = h.tagLength →
        ∀ payload, other.messageLength payload = h.messageLength payload
  /-- A message that is written has the length that was told before. -/
  write : ∀ payload buffer random, (h.write payload buffer random).1.result.isOk →
    ∃ message, (h.write payload buffer random).1.buffer = buffer ++ message ∧
      h.messageLength payload.length = .ok message.length
  /-- The payload of a message that is accepted is as much shorter than the message as was told. -/
  read : ∀ message buffer, (h.read message buffer).result.isOk →
    ∃ payload overhead, (h.read message buffer).buffer = buffer ++ payload ∧
      h.messageLength 0 = .ok overhead ∧ payload.length + overhead = message.length

theorem length_of_write (sized : Transcript.Sized T) {h : Handshake K T} {payload buffer : Bytes}
    {random : RandomStream} (hok : (h.write payload buffer random).1.result.isOk) :
    ∃ message, (h.write payload buffer random).1.buffer = buffer ++ message ∧
      h.messageLength payload.length = .ok message.length := by
  obtain ⟨channels, hresult⟩ := exists_eq_ok_of_isOk hok
  obtain ⟨step, t, w, hstep, ht, hw, hwrite⟩ := write_of_ok hresult
  have htokens : w.message.length = step.tokenLength (Transcript.tagLength t) := by
    rw [Writer.tokens_length sized.toSteady sized.length_encrypt hw, Step.tokenLength_eq_sum]
    exact Nat.zero_add _
  -- The payload is sealed with a tag of the length that was in force before the tokens.
  have htag := Writer.tokens_tagLength K h.role sized.toSteady
    { transcript := t, keys := h.keys, random, message := [] } step.tokens
  rw [hw] at htag
  have hsealed : (Transcript.encrypt w.transcript payload []).1.length =
      payload.length + Transcript.tagLength t := by
    rw [sized.length_encrypt]
    exact congrArg (payload.length + ·) htag
  refine ⟨w.message ++ (Transcript.encrypt w.transcript payload []).1, ?_, ?_⟩
  · rw [hwrite, finishStep_buffer]
  · rw [messageLength_of_step? hstep, tagLength_of_transcript ht, List.length_append, htokens,
      hsealed]
    congr 1
    omega

theorem length_of_read (sized : Transcript.Sized T) {h : Handshake K T} {message buffer : Bytes}
    (hok : (h.read message buffer).result.isOk) :
    ∃ payload overhead, (h.read message buffer).buffer = buffer ++ payload ∧
      h.messageLength 0 = .ok overhead ∧ payload.length + overhead = message.length := by
  obtain ⟨channels, hresult⟩ := exists_eq_ok_of_isOk hok
  obtain ⟨step, t, r, payload, hstep, ht, _, hr, hopen, hread⟩ := read_of_ok hresult
  obtain ⟨taken, hrest, hlength⟩ := Reader.rest_of_tokens hr
  have hmessage : message.length = taken.length + r.rest.length := by
    rw [← List.length_append]
    exact congrArg List.length hrest
  have htag : Transcript.tagLength r.transcript = h.tagLength := by
    rw [Reader.tagLength_of_tokens sized.toSteady hr, tagLength_of_transcript ht]
  have hpayload := sized.length_decrypt hopen
  refine ⟨payload, _, ?_, messageLength_of_step? hstep 0, ?_⟩
  · rw [hread, finishStep_buffer]
  · rw [Step.tokenLength_eq_sum, ← hlength]
    omega

/-- At every point of a handshake, the lengths of messages are those that it tells, whatever the order
of the tokens and however often they come. -/
theorem lengths_eq_messageLength (sized : Transcript.Sized T) (h : Handshake K T) : h.Measured where
  formula step payload hstep := by
    rw [messageLength_of_step? hstep, Step.tokenLength_eq_count]
  peer L U _ other _ hpattern hdone htag payload := by
    have hstep : other.step? = h.step? := by rw [step?, hpattern, hdone, step?]
    rw [messageLength, messageLength, hstep, htag]
  write _ _ _ hok := length_of_write sized hok
  read _ _ hok := length_of_read sized hok

/-- The answer in mutual authentication, over a transcript that insists on tags of 20 bytes. -/
theorem lengths_eq_messageLength_answer :
    ∃ (h : Handshake x25519 (Recorder { forced := some 20 })) (events : List Event),
      start .standard "XX" .responder [] {} = .ok (h, events) ∧
        (h.after [.read (List.replicate 32 7 ++ List.replicate 20 Recorder.tagByte) []]).messageLength
          7 = .ok (32 + (32 + 20) + 20 + 7) ∧
        (h.after [.read (List.replicate 32 7 ++ List.replicate 20 Recorder.tagByte) []]).Measured :=
  ⟨_, _, rfl, rfl, lengths_eq_messageLength Recorder.sized _⟩

end Handshake

end DuplexHandshake
