import DuplexHandshake.Proofs.Handshake.Needs

/-!
# Coming to a token

A write or a read comes to a token of its step if it gets past the tokens before it. If it stops, there is one
token that it came to and that it stopped at. Where it stopped for a bad key, the keys it had in hand for this
token gave a secret of zeros: a key that was cut off a message is never too long nor too short.
-/

namespace DuplexHandshake

namespace Interruption

variable {σ α : Type} {f : σ → α → Except (Interruption σ) σ} {s : σ} {stopped : Interruption σ}

/-- Work that comes to an item and stops at it stops there whatever would come after it. -/
theorem foldlM_append_cons {s' : σ} {before : List α} {a : α} (hbefore : before.foldlM f s = .ok s')
    (hstop : f s' a = .error stopped) (after : List α) :
    (before ++ a :: after).foldlM f s = .error stopped := by
  rw [List.foldlM_append, hbefore]
  show (a :: after).foldlM f s' = .error stopped
  rw [List.foldlM_cons, hstop]
  rfl

end Interruption

/-! ## Bad keys -/

/-- Thirty-two bytes are a public key. -/
theorem PublicKey.ofBytes_ne_error {data : Bytes} (h : data.length = keyLength) (e : HandshakeError) :
    PublicKey.ofBytes data ≠ .error e := by
  unfold ofBytes KeyBytes.ofBytes?
  rw [dif_pos h]
  exact fun he => nomatch he

theorem Writer.weak_of_badKey {K : KeyAgreement} {T : Type} [Transcript T] {role : Role}
    {w : Writer T} {t : Token} {stopped : Interruption (Writer T)}
    (h : w.token K role t = .error stopped) (hbad : stopped.error = .badKey) :
    w.keys.weak K role t := by
  have hfails := (fails_of_token h).1
  rw [hbad] at hfails
  cases hfails with
  | secret hsecret => exact Keyring.sharedSecret_eq_badKey_iff.1 hsecret

namespace Reader

variable {K : KeyAgreement} {T : Type} [Transcript T] {role : Role} {r : Reader T} {t : Token}

theorem token_of_weak (h : r.keys.weak K role t) (tagLength : Nat) :
    r.token K role tagLength t = r.stop .badKey [] := by
  cases t with
  | send kind => cases h
  | mix initiator responder =>
    unfold token
    simp only [Keyring.sharedSecret_eq_badKey_iff.2 h]

/-- A transcript that takes its own tags off, and has no bad key for a reason of its own, leaves one reason. -/
theorem weak_of_badKey (sized : Transcript.Sized T) (honest : ¬ RefusalOf T .badKey)
    {stopped : Interruption (Reader T)}
    (h : r.token K role (Transcript.tagLength r.transcript) t = .error stopped)
    (hbad : stopped.error = .badKey) : r.keys.weak K role t := by
  have hfails := fails_of_token h
  generalize stopped.events = events at hfails
  rw [hbad] at hfails
  cases hfails with
  | ephemeral hsplit hkey =>
    have hlength := (Bytes.append_eq_of_split? hsplit).2
    exact absurd hkey (PublicKey.ofBytes_ne_error hlength .badKey)
  | refused hopen => exact absurd ⟨_, _, _, hopen⟩ honest
  | @static segment rest opened _ hsplit hopen hkey =>
    -- The segment has a key's bytes and those of the tag, and opening takes the tag off.
    have hsegment := (Bytes.append_eq_of_split? hsplit).2
    have hopened := sized.length_decrypt hopen
    have hlength : opened.length = keyLength := by omega
    exact absurd hkey (PublicKey.ofBytes_ne_error hlength .badKey)
  | secret hsecret => exact Keyring.sharedSecret_eq_badKey_iff.1 hsecret

end Reader

namespace Handshake

variable {K : KeyAgreement} {T : Type} [Transcript T]

/-- A write comes to a token of its step, with what it has in hand by then. -/
def WriteReaches (h : Handshake K T) (random : RandomStream) (token : Token) (w : Writer T) : Prop :=
  ∃ step transcript before after, h.step? = some step ∧ step.tokens = before ++ token :: after ∧
    h.transcript = some transcript ∧
    Writer.tokens K h.role { transcript, keys := h.keys, random, message := [] } before = .ok w

/-- A read comes to a token of its step, with what it has in hand by then. -/
def ReadReaches (h : Handshake K T) (message : Bytes) (token : Token) (r : Reader T) : Prop :=
  ∃ step transcript before after, h.step? = some step ∧ step.tokens = before ++ token :: after ∧
    h.transcript = some transcript ∧ step.tokenLength h.tagLength ≤ message.length ∧
    Reader.tokens K h.role h.tagLength { transcript, keys := h.keys, rest := message } before = .ok r

theorem write_of_weak {h : Handshake K T} {random : RandomStream} {token : Token} {w : Writer T}
    (reaches : h.WriteReaches random token w) (weak : w.keys.weak K h.role token)
    (payload buffer : Bytes) : (h.write payload buffer random).1.result = .error .badKey := by
  obtain ⟨step, t, before, after, hstep, htokens, ht, hbefore⟩ := reaches
  have hstop := Interruption.foldlM_append_cons hbefore (Writer.token_of_weak weak) after
  rw [← htokens] at hstop
  rw [write_of_stopped hstep ht hstop]
  rfl

theorem read_of_weak {h : Handshake K T} {message : Bytes} {token : Token} {r : Reader T}
    (reaches : h.ReadReaches message token r) (weak : r.keys.weak K h.role token) (buffer : Bytes) :
    (h.read message buffer).result = .error .badKey := by
  obtain ⟨step, t, before, after, hstep, htokens, ht, hlong, hbefore⟩ := reaches
  have hstop := Interruption.foldlM_append_cons hbefore (Reader.token_of_weak weak h.tagLength) after
  rw [← htokens] at hstop
  exact read_of_stopped hstep ht hlong hstop buffer

/-- A write is refused for a bad key just where it comes to a token with keys that give zeros. -/
theorem write_eq_badKey_iff (h : Handshake K T) (payload buffer : Bytes) (random : RandomStream) :
    (h.write payload buffer random).1.result = .error .badKey ↔
      ∃ token w, h.WriteReaches random token w ∧ w.keys.weak K h.role token := by
  constructor
  · intro herror
    cases unwritten_of_error herror with
    | ended he => cases he
    | stopped step t stopped he hstep ht hw =>
      obtain ⟨before, token, after, w, htokens, hbefore, hstop⟩ := Interruption.exists_of_foldlM hw
      exact ⟨token, w, ⟨step, t, before, after, hstep, htokens, ht, hbefore⟩,
        Writer.weak_of_badKey hstop he⟩
  · rintro ⟨token, w, reaches, weak⟩
    exact write_of_weak reaches weak payload buffer

/-- A read is refused for a bad key just where it comes to a token with keys that give zeros. -/
theorem read_eq_badKey_iff (sized : Transcript.Sized T) (honest : ¬ RefusalOf T .badKey)
    (h : Handshake K T) (message buffer : Bytes) :
    (h.read message buffer).result = .error .badKey ↔
      ∃ token r, h.ReadReaches message token r ∧ r.keys.weak K h.role token := by
  constructor
  · intro herror
    cases unread_of_error herror with
    | ended he => cases he
    | short step he => cases he
    | stopped step t stopped he hstep hlong ht hr =>
      obtain ⟨before, token, after, r, htokens, hbefore, hstop⟩ := Interruption.exists_of_foldlM hr
      -- The tags that the handshake cuts off are those that the transcript takes off at the token.
      have htag : h.tagLength = Transcript.tagLength r.transcript := by
        rw [Reader.tagLength_of_tokens sized.toSteady hbefore, tagLength_of_transcript ht]
      rw [htag] at hstop
      exact ⟨token, r, ⟨step, t, before, after, hstep, htokens, ht, hlong, hbefore⟩,
        Reader.weak_of_badKey sized honest hstop he⟩
    | refused hrefusal => exact absurd hrefusal honest
  · rintro ⟨token, r, reaches, weak⟩
    exact read_of_weak reaches weak buffer

end Handshake

end DuplexHandshake
