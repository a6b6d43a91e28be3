import DuplexHandshake.Proofs.Handshake.LifeCycle
import DuplexHandshake.Proofs.Transcript.InPlace

/-!
# The caller's buffer

A message is written at the end of the caller's buffer, segment by segment, and the buffer is cut back
to its old length if a token fails; a payload is opened at the end of the buffer, and there is nothing
else to undo. Both come to the same as a call on an empty buffer with the old contents put before what
it gives.
-/

namespace DuplexHandshake

variable {K : KeyAgreement} {T : Type}

/-! ## Old contents -/

/-- What is left behind if the buffer has held something from the start. -/
def Outcome.behind (old : Bytes) (o : Outcome K T) : Outcome K T :=
  { o with buffer := old ++ o.buffer }

/-- A writer whose message stands behind something else. -/
def Writer.behind (old : Bytes) (w : Writer T) : Writer T :=
  { w with message := old ++ w.message }

/-- The same work with another state in hand. -/
def Interruption.mapState {σ τ : Type} (f : σ → τ) (stopped : Interruption σ) : Interruption τ :=
  { stopped with state := f stopped.state }

/-- The same work with another state in hand, be it done or stopped. -/
def Interruption.mapLast {σ τ : Type} (f : σ → τ) :
    Except (Interruption σ) σ → Except (Interruption τ) τ
  | .ok state => .ok (f state)
  | .error stopped => .error (stopped.mapState f)

/-- Work that goes alike on two kinds of state, piece by piece, goes alike as a whole. -/
theorem Interruption.foldlM_mapLast {σ τ α : Type} {f : σ → α → Except (Interruption σ) σ}
    {g : τ → α → Except (Interruption τ) τ} {φ : σ → τ} {P : σ → Prop}
    (hstep : ∀ s a, P s → g (φ s) a = mapLast φ (f s a))
    (hkeep : ∀ s a next, P s → f s a = .ok next → P next) {s : σ} (h : P s) (l : List α) :
    l.foldlM g (φ s) = mapLast φ (l.foldlM f s) := by
  induction l generalizing s with
  | nil => rfl
  | cons a l ih =>
    rw [List.foldlM_cons, List.foldlM_cons, hstep s a h]
    cases hone : f s a with
    | error stopped => rfl
    | ok next => exact ih (hkeep s a next h hone)

namespace Handshake

theorem abandon_behind (h : Handshake K T) (t : T) (keys : Keyring) (old : Bytes)
    (events : List Event) (error : HandshakeError) :
    h.abandon t keys old events error = (h.abandon t keys [] events error).behind old := by
  simp [abandon, Outcome.behind]

theorem refuse_behind (h : Handshake K T) (old : Bytes) (error : HandshakeError) :
    h.refuse old error = (h.refuse [] error).behind old := by
  simp [refuse, Outcome.behind]

end Handshake

variable [Transcript T] {role : Role}

namespace Writer

theorem token_behind (old : Bytes) (w : Writer T) (t : Token) :
    (w.behind old).token K role t = Interruption.mapLast (behind old) (w.token K role t) := by
  cases t with
  | send kind =>
    cases kind with
    | ephemeral => simp [token, behind, Interruption.mapLast]
    | static =>
      unfold token
      cases hown : w.keys.ownStatic with
      | none => simp [behind, hown, stop, Interruption.mapLast, Interruption.mapState]
      | some pair => simp [behind, hown, Interruption.mapLast]
  | mix initiator responder =>
    unfold token
    cases hshared : w.keys.sharedSecret K role initiator responder with
    | error e => simp [behind, hshared, stop, Interruption.mapLast, Interruption.mapState]
    | ok secret => simp [behind, hshared, Interruption.mapLast]

/-- What is written does not depend on what stands before it. -/
theorem tokens_behind (K : KeyAgreement) (role : Role) (old : Bytes) (w : Writer T)
    (ts : List Token) :
    (w.behind old).tokens K role ts = Interruption.mapLast (behind old) (w.tokens K role ts) :=
  Interruption.foldlM_mapLast (P := fun _ => True) (fun v t _ => v.token_behind old t)
    (fun _ _ _ _ _ => trivial) trivial ts

end Writer

namespace Handshake

theorem finishStep_behind (h : Handshake K T) (old buffer : Bytes) (report : Event) :
    h.finishStep (old ++ buffer) report = (h.finishStep buffer report).behind old := by
  unfold finishStep
  dsimp only
  split
  · rfl
  · split <;> rfl

/-- Writing to a buffer is writing to an empty one, behind the old contents. -/
theorem write_behind (h : Handshake K T) (payload buffer : Bytes) (random : RandomStream) :
    h.write payload buffer random =
      ((h.write payload [] random).1.behind buffer, (h.write payload [] random).2) := by
  unfold write
  split
  · rw [refuse_behind]
  · split
    · rw [refuse_behind]
    · split
      · dsimp only
        rw [abandon_behind]
      · simp only [List.nil_append]
        rw [finishStep_behind]

/-- Reading to a buffer is reading to an empty one, behind the old contents. -/
theorem read_behind (h : Handshake K T) (message buffer : Bytes) :
    h.read message buffer = (h.read message []).behind buffer := by
  unfold read
  split
  · exact refuse_behind _ _ _
  · split
    · exact refuse_behind _ _ _
    · split
      · exact refuse_behind _ _ _
      · split
        · exact abandon_behind _ _ _ _ _ _
        · split
          · exact abandon_behind _ _ _ _ _ _
          · rw [List.nil_append, finishStep_behind]

end Handshake

/-! ## Working in the buffer itself -/

variable {permute : Block → Block}

namespace Writer

/-- Writes a token at the end of the message, where a static key is also enciphered. -/
def tokenInPlace (K : KeyAgreement) (role : Role) (w : Writer (DuplexTranscript permute)) :
    Token → Except (Interruption (Writer (DuplexTranscript permute)))
      (Writer (DuplexTranscript permute))
  | .send .static =>
    match w.keys.ownStatic with
    | none => w.stop .missingKeyMaterial
    | some pair =>
      let (message, transcript) :=
        w.transcript.encryptInPlace pair.publicKey.toBytes [] w.message
      .ok { w with transcript, message }
  | t => w.token K role t

theorem tokenInPlace_eq (w : Writer (DuplexTranscript permute)) (t : Token) :
    w.tokenInPlace K role t = w.token K role t := by
  unfold tokenInPlace
  split
  · unfold token
    cases w.keys.ownStatic with
    | none => rfl
    | some pair =>
      simp only [DuplexTranscript.encryptInPlace_eq]
      rfl
  · rfl

def tokensInPlace (K : KeyAgreement) (role : Role) (w : Writer (DuplexTranscript permute))
    (ts : List Token) :
    Except (Interruption (Writer (DuplexTranscript permute)))
      (Writer (DuplexTranscript permute)) :=
  ts.foldlM (tokenInPlace K role) w

theorem tokensInPlace_eq (w : Writer (DuplexTranscript permute)) (ts : List Token) :
    w.tokensInPlace K role ts = w.tokens K role ts := by
  have hstep : (tokenInPlace K role : Writer (DuplexTranscript permute) → _) = token K role := by
    funext w t
    exact tokenInPlace_eq w t
  rw [tokensInPlace, tokens, hstep]

end Writer

namespace Handshake

/-- Writes to the end of the caller's buffer, and cuts the buffer back to its old length if a token
fails. -/
def writeInPlace (h : Handshake K (DuplexTranscript permute)) (payload buffer : Bytes)
    (random : RandomStream) : Outcome K (DuplexTranscript permute) × RandomStream :=
  match h.step? with
  | none => (h.refuse buffer .alreadyComplete, random)
  | some step =>
    match h.transcript with
    | none => (h.refuse buffer .alreadyComplete, random)
    | some transcript =>
      let start := buffer.length
      match Writer.tokensInPlace K h.role { transcript, keys := h.keys, random, message := buffer }
          step.tokens with
      | .error stopped =>
        let w := stopped.state
        (h.abandon w.transcript w.keys (w.message.take start) stopped.events stopped.error, w.random)
      | .ok w =>
        let (out, t) := w.transcript.encryptInPlace payload [] w.message
        ((h.holding t w.keys).finishStep out
            (.wrote h.done step.tokens.length (out.length - start)),
          w.random)

/-- Opens the payload at the end of the caller's buffer, which no token has touched. -/
def readInPlace (h : Handshake K (DuplexTranscript permute)) (message buffer : Bytes) :
    Outcome K (DuplexTranscript permute) :=
  match h.step? with
  | none => h.refuse buffer .alreadyComplete
  | some step =>
    if message.length < step.tokenLength h.tagLength then h.refuse buffer .malformedMessage
    else
      match h.transcript with
      | none => h.refuse buffer .alreadyComplete
      | some transcript =>
        match Reader.tokens K h.role h.tagLength { transcript, keys := h.keys, rest := message }
            step.tokens with
        | .error stopped =>
          let r := stopped.state
          h.abandon r.transcript r.keys buffer stopped.events stopped.error
        | .ok r =>
          match r.transcript.decryptInPlace r.rest [] buffer with
          | (.error e, out, t) => h.abandon t r.keys out [.payloadRejected] e
          | (.ok (), out, t) =>
            (h.holding t r.keys).finishStep out
              (.read h.done step.tokens.length message.length)

theorem writeInPlace_eq (h : Handshake K (DuplexTranscript permute)) (payload buffer : Bytes)
    (random : RandomStream) : h.writeInPlace payload buffer random = h.write payload buffer random := by
  unfold writeInPlace write
  cases h.step? with
  | none => rfl
  | some step =>
    cases h.transcript with
    | none => rfl
    | some t =>
      let first : Writer (DuplexTranscript permute) :=
        { transcript := t, keys := h.keys, random, message := [] }
      have hfirst : first.behind buffer =
          { transcript := t, keys := h.keys, random, message := buffer } := by
        simp [first, Writer.behind]
      -- A buffer to write to is a message behind old contents, which are there to be cut back to.
      have htokens := Writer.tokens_behind K h.role buffer first step.tokens
      rw [hfirst] at htokens
      simp only [Writer.tokensInPlace_eq, htokens, DuplexTranscript.encryptInPlace_eq]
      cases first.tokens K h.role step.tokens with
      | error stopped => simp [Interruption.mapLast, Interruption.mapState, Writer.behind]
      | ok w => simp [Interruption.mapLast, Writer.behind, Transcript.encryptInto]

theorem readInPlace_eq (h : Handshake K (DuplexTranscript permute)) (message buffer : Bytes) :
    h.readInPlace message buffer = h.read message buffer := by
  unfold readInPlace read
  simp only [DuplexTranscript.decryptInPlace_eq, Transcript.decryptInto]
  cases h.step? with
  | none => rfl
  | some step =>
    dsimp only
    by_cases hshort : message.length < step.tokenLength h.tagLength
    · rw [if_pos hshort, if_pos hshort]
    · rw [if_neg hshort, if_neg hshort]
      cases h.transcript with
      | none => rfl
      | some t =>
        dsimp only
        cases Reader.tokens K h.role h.tagLength { transcript := t, keys := h.keys, rest := message }
          step.tokens with
        | error stopped => rfl
        | ok r =>
          dsimp only
          rcases Transcript.decrypt r.transcript r.rest [] with ⟨e | payload, u⟩ <;> rfl

end Handshake

end DuplexHandshake
