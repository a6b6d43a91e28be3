import DuplexHandshake.Handshake.Read
import DuplexHandshake.Handshake.Write
import Mathlib.Algebra.GroupWithZero.Nat

/-!
# Attempts at a step

Writing and reading differ in what they do with tokens, not in how they end. Here the ends of both
are told by one relation, so that what holds of every call is shown once. The errors of the tokens
are gathered on the way: none of them says that the handshake is complete, unless the transcript
itself does.
-/

namespace DuplexHandshake

/-- A call on a handshake, with all that the caller hands over. -/
inductive Call where
  | write (payload buffer : Bytes) (random : RandomStream)
  | read (message buffer : Bytes)

def Call.buffer : Call → Bytes
  | .write _ buffer _ => buffer
  | .read _ buffer => buffer

/-- An error that some refused opening of the transcript gives. -/
def RefusalOf (T : Type) [Transcript T] (e : HandshakeError) : Prop :=
  ∃ (t : T) (sealed associated : Bytes), (Transcript.decrypt t sealed associated).1 = .error e

theorem exists_eq_ok_of_isOk {α : Type} {x : Except HandshakeError α} (h : x.isOk) :
    ∃ a, x = .ok a := by
  cases x with
  | ok a => exact ⟨a, rfl⟩
  | error e => cases h

/-- The tokens of a step take up what they take up one by one. -/
theorem Step.tokenLength_eq_sum (tagLength : Nat) (s : Step) :
    s.tokenLength tagLength = (s.tokens.map (Token.length tagLength)).sum := by
  rw [tokenLength, List.sum, List.foldr_map]

/-- Work that stops has come to an item and stopped at it. -/
theorem Interruption.exists_of_foldlM {σ α : Type} {f : σ → α → Except (Interruption σ) σ} {s : σ}
    {l : List α} {stopped : Interruption σ} (h : l.foldlM f s = .error stopped) :
    ∃ before a after s', l = before ++ a :: after ∧ before.foldlM f s = .ok s' ∧
      f s' a = .error stopped := by
  induction l generalizing s with
  | nil => cases h
  | cons a l ih =>
    rw [List.foldlM_cons] at h
    -- Either the first item stops the work, or the work goes on and stops at a later one.
    cases hone : f s a with
    | error early =>
      rw [hone] at h
      cases h
      exact ⟨[], a, l, s, rfl, rfl, hone⟩
    | ok next =>
      rw [hone] at h
      obtain ⟨before, b, after, s', hl, hbefore, hstop⟩ := ih h
      refine ⟨a :: before, b, after, s', by rw [hl, List.cons_append], ?_, hstop⟩
      rw [List.foldlM_cons, hone]
      exact hbefore

/-- What holds whenever one piece of work stops holds whenever one of several does. -/
theorem Interruption.of_foldlM_error {σ α : Type} {f : σ → α → Except (Interruption σ) σ}
    {P : Interruption σ → Prop} (hstop : ∀ s a stopped, f s a = .error stopped → P stopped) {s : σ}
    {l : List α} {stopped : Interruption σ} (h : l.foldlM f s = .error stopped) : P stopped := by
  obtain ⟨_, a, _, s', _, _, hone⟩ := exists_of_foldlM h
  exact hstop s' a stopped hone

/-! ## The errors of tokens -/

theorem Keyring.sharedSecret_error {K : KeyAgreement} {k : Keyring} {role : Role}
    {initiator responder : KeyKind} {e : HandshakeError}
    (h : k.sharedSecret K role initiator responder = .error e) :
    e = .missingKeyMaterial ∨ e = .badKey := by
  unfold sharedSecret at h
  split at h
  · unfold KeyAgreement.sharedSecret at h
    dsimp only at h
    split at h
    · exact .inr (Except.error.inj h).symm
    · cases h
  · exact .inl (Except.error.inj h).symm

theorem PublicKey.ofBytes_error {data : Bytes} {e : HandshakeError}
    (h : PublicKey.ofBytes data = .error e) : e = .badKey := by
  unfold ofBytes at h
  split at h
  · cases h
  · exact (Except.error.inj h).symm

theorem PublicKey.toBytes_of_ofBytes {data : Bytes} {key : PublicKey}
    (h : PublicKey.ofBytes data = .ok key) : key.toBytes = data := by
  unfold ofBytes at h
  split at h
  · next hbytes =>
    cases h
    exact KeyBytes.toList_of_ofBytes? hbytes
  · cases h

namespace Writer

variable {T : Type} [Transcript T] {K : KeyAgreement} {role : Role}

theorem tokens_cons (w : Writer T) (t : Token) (ts : List Token) :
    w.tokens K role (t :: ts) =
      match w.token K role t with
      | .ok next => next.tokens K role ts
      | .error stopped => .error stopped := by
  rw [tokens, List.foldlM_cons]
  cases w.token K role t <;> rfl

theorem tokens_cons_eq_ok {w end_ : Writer T} {t : Token} {ts : List Token} :
    w.tokens K role (t :: ts) = .ok end_ ↔
      ∃ next, w.token K role t = .ok next ∧ next.tokens K role ts = .ok end_ := by
  rw [tokens_cons]
  cases w.token K role t with
  | ok next => simp only [Except.ok.injEq, exists_eq_left']
  | error stopped => simp only [reduceCtorEq, false_and, exists_false]

theorem token_mix {w : Writer T} {initiator responder : KeyKind} {secret : SharedSecret}
    (h : w.keys.sharedSecret K role initiator responder = .ok secret) :
    w.token K role (.mix initiator responder) =
      .ok { w with transcript := Transcript.mixKey w.transcript secret.bytes.toList } := by
  unfold token
  simp only [h]

/-- What stops a writer at a token: its own static key is not there, or the secret is none. -/
inductive Fails (K : KeyAgreement) (role : Role) (w : Writer T) : Token → HandshakeError → Prop where
  | static : w.keys.ownStatic = none → Fails K role w (.send .static) .missingKeyMaterial
  | secret {initiator responder : KeyKind} {e : HandshakeError} :
      w.keys.sharedSecret K role initiator responder = .error e →
      Fails K role w (.mix initiator responder) e

theorem fails_of_token {w : Writer T} {t : Token} {stopped : Interruption (Writer T)}
    (h : w.token K role t = .error stopped) :
    w.Fails K role t stopped.error ∧ stopped.events = [] := by
  unfold token at h
  split at h
  · cases h
  · split at h
    · next hown =>
      cases h
      exact ⟨.static hown, rfl⟩
    · cases h
  · split at h
    · next hsecret =>
      cases h
      exact ⟨.secret hsecret, rfl⟩
    · cases h

omit [Transcript T] in
theorem Fails.error {w : Writer T} {t : Token} {e : HandshakeError} (h : w.Fails K role t e) :
    e = .missingKeyMaterial ∨ e = .badKey := by
  cases h with
  | static => exact .inl rfl
  | secret hsecret => exact Keyring.sharedSecret_error hsecret

theorem tokens_error {w : Writer T} {ts : List Token} {stopped : Interruption (Writer T)}
    (h : w.tokens K role ts = .error stopped) :
    stopped.error = .missingKeyMaterial ∨ stopped.error = .badKey :=
  Interruption.of_foldlM_error (fun _ _ _ hone => (fails_of_token hone).1.error) h

end Writer

namespace Reader

variable {T : Type} [Transcript T] {K : KeyAgreement} {role : Role} {tagLength : Nat}

theorem tokens_cons (r : Reader T) (t : Token) (ts : List Token) :
    r.tokens K role tagLength (t :: ts) =
      match r.token K role tagLength t with
      | .ok next => next.tokens K role tagLength ts
      | .error stopped => .error stopped := by
  rw [tokens, List.foldlM_cons]
  cases r.token K role tagLength t <;> rfl

theorem tokens_cons_eq_ok {r end_ : Reader T} {t : Token} {ts : List Token} :
    r.tokens K role tagLength (t :: ts) = .ok end_ ↔
      ∃ next, r.token K role tagLength t = .ok next ∧
        next.tokens K role tagLength ts = .ok end_ := by
  rw [tokens_cons]
  cases r.token K role tagLength t with
  | ok next => simp only [Except.ok.injEq, exists_eq_left']
  | error stopped => simp only [reduceCtorEq, false_and, exists_false]

/-- What stops a reader at a token, and what is reported of it: the message is too short, the bytes of a key
are not as many as a key has, the transcript refuses the segment, or the secret is none. -/
inductive Fails (K : KeyAgreement) (role : Role) (tagLength : Nat) (r : Reader T) :
    Token → HandshakeError → List Event → Prop where
  | short (kind : KeyKind) : r.rest.length < (Token.send kind).length tagLength →
      Fails K role tagLength r (.send kind) .malformedMessage []
  | ephemeral {segment rest : Bytes} {e : HandshakeError} :
      Bytes.split? keyLength r.rest = some (segment, rest) → PublicKey.ofBytes segment = .error e →
      Fails K role tagLength r (.send .ephemeral) e []
  | refused {segment : Bytes} {e : HandshakeError} :
      (Transcript.decrypt r.transcript segment []).1 = .error e →
      Fails K role tagLength r (.send .static) e [.staticKeyRejected]
  | static {segment rest opened : Bytes} {e : HandshakeError} :
      Bytes.split? (keyLength + tagLength) r.rest = some (segment, rest) →
      (Transcript.decrypt r.transcript segment []).1 = .ok opened →
      PublicKey.ofBytes opened = .error e → Fails K role tagLength r (.send .static) e []
  | secret {initiator responder : KeyKind} {e : HandshakeError} :
      r.keys.sharedSecret K role initiator responder = .error e →
      Fails K role tagLength r (.mix initiator responder) e []

theorem fails_of_token {r : Reader T} {t : Token} {stopped : Interruption (Reader T)}
    (h : r.token K role tagLength t = .error stopped) :
    r.Fails K role tagLength t stopped.error stopped.events := by
  unfold token at h
  split at h
  · unfold Reader.ephemeral at h
    split at h
    · next hsplit =>
      cases h
      exact .short .ephemeral (Bytes.split?_eq_none_iff.1 hsplit)
    · next hsplit =>
      split at h
      · next hkey =>
        cases h
        exact .ephemeral hsplit hkey
      · cases h
  · unfold Reader.static at h
    split at h
    · next hsplit =>
      cases h
      exact .short .static (Bytes.split?_eq_none_iff.1 hsplit)
    · next hsplit =>
      split at h
      · next hopen =>
        cases h
        exact .refused (congrArg Prod.fst hopen)
      · next hopen =>
        split at h
        · next hkey =>
          cases h
          exact .static hsplit (congrArg Prod.fst hopen) hkey
        · cases h
  · split at h
    · next hsecret =>
      cases h
      exact .secret hsecret
    · cases h

/-- The errors that reading a token has of its own. -/
def IsTokenError (e : HandshakeError) : Prop :=
  e = .malformedMessage ∨ e = .missingKeyMaterial ∨ e = .badKey

theorem Fails.error {r : Reader T} {t : Token} {e : HandshakeError} {events : List Event}
    (h : r.Fails K role tagLength t e events) : IsTokenError e ∨ RefusalOf T e := by
  cases h with
  | short => exact .inl (.inl rfl)
  | ephemeral _ hkey | static _ _ hkey => exact .inl (.inr (.inr (PublicKey.ofBytes_error hkey)))
  | refused hopen => exact .inr ⟨_, _, _, hopen⟩
  | secret hsecret => exact .inl (.inr (Keyring.sharedSecret_error hsecret))

theorem tokens_error {r : Reader T} {ts : List Token} {stopped : Interruption (Reader T)}
    (h : r.tokens K role tagLength ts = .error stopped) :
    IsTokenError stopped.error ∨ RefusalOf T stopped.error :=
  Interruption.of_foldlM_error (fun _ _ _ hone => (fails_of_token hone).error) h

end Reader

namespace Handshake

variable {K : KeyAgreement} {T : Type} [Transcript T]

/-! ## Calls and their ends -/

def perform (h : Handshake K T) : Call → Outcome K T
  | .write payload buffer random => (h.write payload buffer random).1
  | .read message buffer => h.read message buffer

/-- The handshake after some calls, whatever came of each. -/
def after (h : Handshake K T) (calls : List Call) : Handshake K T :=
  calls.foldl (fun h call => (h.perform call).state) h

/-- The handshake with what an attempt has come to in place of what it had. -/
abbrev holding (h : Handshake K T) (t : T) (keys : Keyring) : Handshake K T :=
  { h with transcript := some t, keys }

/-- The three ends of an attempt: refused with nothing done, stopped half-way, or finished. -/
inductive Attempt (h : Handshake K T) (buffer : Bytes) : Outcome K T → Prop where
  | ended : h.step? = none ∨ h.transcript = none →
      Attempt h buffer (h.refuse buffer .alreadyComplete)
  | malformed : h.step?.isSome → Attempt h buffer (h.refuse buffer .malformedMessage)
  | stopped (t : T) (keys : Keyring) (events : List Event) (error : HandshakeError) :
      h.step?.isSome → h.transcript.isSome → error ≠ .alreadyComplete ∨ RefusalOf T error →
      Attempt h buffer (h.abandon t keys buffer events error)
  | finished (t : T) (keys : Keyring) (appended : Bytes) (report : Event) :
      h.step?.isSome → h.transcript.isSome →
      Attempt h buffer
        ((h.holding t keys).finishStep (buffer ++ appended) report)

theorem attempt_write (h : Handshake K T) (payload buffer : Bytes) (random : RandomStream) :
    Attempt h buffer (h.write payload buffer random).1 := by
  unfold write
  split
  · next hstep => exact .ended (.inl hstep)
  · next step hstep =>
    split
    · next ht => exact .ended (.inr ht)
    · next t ht =>
      have hs : h.step?.isSome := by rw [hstep]; rfl
      have hh : h.transcript.isSome := by rw [ht]; rfl
      split
      · next stopped hstopped =>
        apply Attempt.stopped _ _ _ _ hs hh
        left
        rcases Writer.tokens_error hstopped with he | he <;> rw [he] <;> decide
      · next w _ => exact .finished _ _ _ _ hs hh

theorem attempt_read (h : Handshake K T) (message buffer : Bytes) :
    Attempt h buffer (h.read message buffer) := by
  unfold read
  split
  · next hstep => exact .ended (.inl hstep)
  · next step hstep =>
    have hs : h.step?.isSome := by rw [hstep]; rfl
    split
    · exact .malformed hs
    · split
      · next ht => exact .ended (.inr ht)
      · next t ht =>
        have hh : h.transcript.isSome := by rw [ht]; rfl
        split
        · next stopped hstopped =>
          apply Attempt.stopped _ _ _ _ hs hh
          rcases Reader.tokens_error hstopped with (he | he | he) | hrefusal
          · exact .inl (by rw [he]; decide)
          · exact .inl (by rw [he]; decide)
          · exact .inl (by rw [he]; decide)
          · exact .inr hrefusal
        · next r _ =>
          split
          · next hopen => exact .stopped _ _ _ _ hs hh (.inr ⟨_, _, _, congrArg Prod.fst hopen⟩)
          · exact .finished _ _ _ _ hs hh

theorem attempt_perform (h : Handshake K T) (call : Call) :
    Attempt h call.buffer (h.perform call) := by
  cases call with
  | write payload buffer random => exact h.attempt_write payload buffer random
  | read message buffer => exact h.attempt_read message buffer

/-! ## What makes a success, and what a success tells -/

theorem write_of_tokens {h : Handshake K T} {step : Step} {t : T} {w : Writer T}
    {random : RandomStream} (hstep : h.step? = some step) (ht : h.transcript = some t)
    (hw : Writer.tokens K h.role { transcript := t, keys := h.keys, random, message := [] }
      step.tokens = .ok w) (payload buffer : Bytes) :
    h.write payload buffer random =
      ((h.holding (Transcript.encrypt w.transcript payload []).2 w.keys).finishStep
          (buffer ++ (w.message ++ (Transcript.encrypt w.transcript payload []).1))
          (.wrote h.done step.tokens.length
            (w.message ++ (Transcript.encrypt w.transcript payload []).1).length),
        w.random) := by
  unfold write
  rw [hstep, ht]
  dsimp only
  rw [hw]

theorem write_of_ok {h : Handshake K T} {payload buffer : Bytes} {random : RandomStream}
    {channels : Option (Channels T)} (hok : (h.write payload buffer random).1.result = .ok channels) :
    ∃ step t w, h.step? = some step ∧ h.transcript = some t ∧
      Writer.tokens K h.role { transcript := t, keys := h.keys, random, message := [] }
        step.tokens = .ok w ∧
      (h.write payload buffer random).1 =
        (h.holding (Transcript.encrypt w.transcript payload []).2 w.keys).finishStep
          (buffer ++ (w.message ++ (Transcript.encrypt w.transcript payload []).1))
          (.wrote h.done step.tokens.length
            (w.message ++ (Transcript.encrypt w.transcript payload []).1).length) := by
  unfold write at hok ⊢
  split at hok
  · cases hok
  · next step hstep =>
    split at hok
    · cases hok
    · next t ht =>
      split at hok
      · cases hok
      · next w hw => exact ⟨step, t, w, hstep, ht, hw, rfl⟩

theorem read_of_ok {h : Handshake K T} {message buffer : Bytes} {channels : Option (Channels T)}
    (hok : (h.read message buffer).result = .ok channels) :
    ∃ step t r payload, h.step? = some step ∧ h.transcript = some t ∧
      step.tokenLength h.tagLength ≤ message.length ∧
      Reader.tokens K h.role h.tagLength { transcript := t, keys := h.keys, rest := message }
        step.tokens = .ok r ∧
      (Transcript.decrypt r.transcript r.rest []).1 = .ok payload ∧
      h.read message buffer =
        (h.holding (Transcript.decrypt r.transcript r.rest []).2 r.keys).finishStep
          (buffer ++ payload) (.read h.done step.tokens.length message.length) := by
  unfold read at hok ⊢
  split at hok
  · cases hok
  · next step hstep =>
    split at hok
    · cases hok
    · next hlong =>
      split at hok
      · cases hok
      · next t ht =>
        split at hok
        · cases hok
        · next r hr =>
          split at hok
          · cases hok
          · next payload u hopen =>
            refine ⟨step, t, r, payload, hstep, ht, by omega, hr, by rw [hopen], ?_⟩
            rw [if_neg hlong, hopen]

theorem read_of_tokens {h : Handshake K T} {step : Step} {t : T} {r : Reader T}
    {message payload : Bytes} (hstep : h.step? = some step) (ht : h.transcript = some t)
    (hlong : step.tokenLength h.tagLength ≤ message.length)
    (hr : Reader.tokens K h.role h.tagLength { transcript := t, keys := h.keys, rest := message }
      step.tokens = .ok r)
    (hopen : (Transcript.decrypt r.transcript r.rest []).1 = .ok payload) (buffer : Bytes) :
    h.read message buffer =
      (h.holding (Transcript.decrypt r.transcript r.rest []).2 r.keys).finishStep
        (buffer ++ payload) (.read h.done step.tokens.length message.length) := by
  unfold read
  rw [hstep, ht]
  dsimp only
  rw [if_neg (Nat.not_lt_of_le hlong), hr]
  dsimp only
  generalize Transcript.decrypt r.transcript r.rest [] = opened at hopen ⊢
  obtain ⟨verdict, u⟩ := opened
  cases hopen
  rfl

/-! ## What makes a failure, and what a failure tells -/

theorem write_of_stopped {h : Handshake K T} {step : Step} {t : T} {random : RandomStream}
    {stopped : Interruption (Writer T)} (hstep : h.step? = some step) (ht : h.transcript = some t)
    (hw : Writer.tokens K h.role { transcript := t, keys := h.keys, random, message := [] }
      step.tokens = .error stopped) (payload buffer : Bytes) :
    (h.write payload buffer random).1 =
      h.abandon stopped.state.transcript stopped.state.keys buffer stopped.events stopped.error := by
  unfold write
  rw [hstep, ht]
  dsimp only
  rw [hw]

theorem read_of_stopped {h : Handshake K T} {step : Step} {t : T} {message : Bytes}
    {stopped : Interruption (Reader T)} (hstep : h.step? = some step) (ht : h.transcript = some t)
    (hlong : step.tokenLength h.tagLength ≤ message.length)
    (hr : Reader.tokens K h.role h.tagLength { transcript := t, keys := h.keys, rest := message }
      step.tokens = .error stopped) (buffer : Bytes) :
    (h.read message buffer).result = .error stopped.error := by
  unfold read
  rw [hstep, ht]
  dsimp only
  rw [if_neg (Nat.not_lt_of_le hlong), hr]
  rfl

/-- The reasons why a message is not written: there is no more to write, or writing the tokens stopped. -/
inductive Unwritten (h : Handshake K T) (random : RandomStream) (e : HandshakeError) : Prop where
  | ended : e = .alreadyComplete → Unwritten h random e
  | stopped (step : Step) (t : T) (stopped : Interruption (Writer T)) : stopped.error = e →
      h.step? = some step → h.transcript = some t →
      Writer.tokens K h.role { transcript := t, keys := h.keys, random, message := [] } step.tokens =
        .error stopped → Unwritten h random e

theorem unwritten_of_error {h : Handshake K T} {payload buffer : Bytes} {random : RandomStream}
    {e : HandshakeError} (herror : (h.write payload buffer random).1.result = .error e) :
    h.Unwritten random e := by
  unfold write at herror
  split at herror
  · exact .ended (Except.error.inj herror).symm
  · next step hstep =>
    split at herror
    · exact .ended (Except.error.inj herror).symm
    · next t ht =>
      split at herror
      · next stopped hw => exact .stopped step t stopped (Except.error.inj herror) hstep ht hw
      · unfold finishStep at herror
        dsimp only at herror
        split at herror <;> cases herror

/-- The reasons why a message is not accepted: there is no more to read, it is too short for its tokens,
reading the tokens stopped, or the transcript refused the payload. -/
inductive Unread (h : Handshake K T) (message : Bytes) (e : HandshakeError) : Prop where
  | ended : e = .alreadyComplete → Unread h message e
  | short (step : Step) : e = .malformedMessage → h.step? = some step →
      message.length < step.tokenLength h.tagLength → Unread h message e
  | stopped (step : Step) (t : T) (stopped : Interruption (Reader T)) : stopped.error = e →
      h.step? = some step → step.tokenLength h.tagLength ≤ message.length → h.transcript = some t →
      Reader.tokens K h.role h.tagLength { transcript := t, keys := h.keys, rest := message }
        step.tokens = .error stopped → Unread h message e
  | refused : RefusalOf T e → Unread h message e

theorem unread_of_error {h : Handshake K T} {message buffer : Bytes} {e : HandshakeError}
    (herror : (h.read message buffer).result = .error e) : h.Unread message e := by
  unfold read at herror
  split at herror
  · exact .ended (Except.error.inj herror).symm
  · next step hstep =>
    split at herror
    · next hshort => exact .short step (Except.error.inj herror).symm hstep hshort
    · next hlong =>
      split at herror
      · exact .ended (Except.error.inj herror).symm
      · next t ht =>
        split at herror
        · next stopped hr =>
          exact .stopped step t stopped (Except.error.inj herror) hstep (by omega) ht hr
        · split at herror
          · next hopen =>
            cases herror
            exact .refused ⟨_, _, _, congrArg Prod.fst hopen⟩
          · unfold finishStep at herror
            dsimp only at herror
            split at herror <;> cases herror

/-! ## The start -/

/-- The transcript of a handshake before any key is known. -/
def preamble (pattern : Pattern) (prologue : Bytes) : T :=
  let labelled : T := Transcript.start (Bytes.ofText (protocolLabel ++ pattern.name))
  Transcript.mixData (Transcript.setTagLength labelled handshakeTagLength).2 prologue

theorem mixPreMessage_cons (keys : Keyring) (role owner : Role) (t : T) (token : Token)
    (pre : List Token) :
    mixPreMessage keys role owner t (token :: pre) =
      match keys.staticKey role owner with
      | .ok key => mixPreMessage keys role owner (Transcript.mixData t key.toBytes) pre
      | .error e => .error e := by
  unfold mixPreMessage
  rw [List.foldlM_cons]
  cases hkey : keys.staticKey role owner with
  | ok key => rfl
  | error e => rfl

theorem exists_of_start {registry : Registry} {name : String} {role : Role} {prologue : Bytes}
    {keys : Keyring} {h : Handshake K T} {events : List Event}
    (started : start registry name role prologue keys = .ok (h, events)) :
    ∃ pattern t u, registry.get name = .ok pattern ∧
      mixPreMessage keys role .initiator (preamble pattern prologue) pattern.initiatorPre = .ok t ∧
      mixPreMessage keys role .responder t pattern.responderPre = .ok u ∧
      h = { transcript := some u, pattern, done := 0, role, keys } := by
  unfold start at started
  cases hget : registry.get name with
  | error e =>
    rw [hget] at started
    cases started
  | ok pattern =>
    rw [hget] at started
    simp only [bind, Except.bind] at started
    split at started
    · cases started
    · split at started
      · cases started
      · next t ht =>
        split at started
        · cases started
        · next u hu =>
          cases started
          exact ⟨pattern, t, u, rfl, ht, hu, rfl⟩

end Handshake

end DuplexHandshake
