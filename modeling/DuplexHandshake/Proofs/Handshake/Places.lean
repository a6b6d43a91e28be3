import DuplexHandshake.Proofs.Handshake.InPlace
import DuplexHandshake.Proofs.Key.Partners

/-!
# What a call leaves alone

Of the four places of a keyring a writer fills that of its own ephemeral pair and no other. A reader
fills the two places of its peer, that of the static key only with a key that it has opened in the
message at hand. Together with the buffer, which a failed call leaves as it was, this is all that a
call can change besides the transcript and the count of steps.
-/

namespace DuplexHandshake

variable {K : KeyAgreement} {T : Type} [Transcript T] {role : Role}

/-- What was in hand at the end of some work, be it done or stopped. -/
def Interruption.last {σ : Type} : Except (Interruption σ) σ → σ
  | .ok state => state
  | .error stopped => stopped.state

/-- What no piece of work changes stays the same over several, done or stopped. -/
theorem Interruption.last_foldlM {σ α : Type} {f : σ → α → Except (Interruption σ) σ} {P : σ → Prop}
    (hkeep : ∀ s a, P s → P (last (f s a))) {s : σ} (h : P s) (l : List α) :
    P (last (l.foldlM f s)) := by
  induction l generalizing s with
  | nil => exact h
  | cons a l ih =>
    have hone := hkeep s a h
    rw [List.foldlM_cons]
    cases hresult : f s a with
    | error stopped =>
      rw [hresult] at hone
      exact hone
    | ok next =>
      rw [hresult] at hone
      exact ih hone

/-! ## The writer's keys -/

namespace Writer

theorem token_keys (K : KeyAgreement) (role : Role) (w : Writer T) (t : Token) :
    ∃ pair, (Interruption.last (w.token K role t)).keys = { w.keys with ownEphemeral := pair } := by
  unfold token
  split
  · exact ⟨some _, rfl⟩
  · cases w.keys.ownStatic with
    | none => exact ⟨w.keys.ownEphemeral, rfl⟩
    | some pair => exact ⟨w.keys.ownEphemeral, rfl⟩
  · split <;> exact ⟨w.keys.ownEphemeral, rfl⟩

/-- Writing tokens changes the own ephemeral pair and no other key. -/
theorem tokens_keys (K : KeyAgreement) (role : Role) (w : Writer T) (ts : List Token) :
    ∃ pair, (Interruption.last (w.tokens K role ts)).keys = { w.keys with ownEphemeral := pair } := by
  refine Interruption.last_foldlM
    (P := fun v : Writer T => ∃ pair, v.keys = { w.keys with ownEphemeral := pair }) ?_
    ⟨w.keys.ownEphemeral, rfl⟩ ts
  rintro v t ⟨pair, hpair⟩
  rcases v.token_keys K role t with ⟨later, hlater⟩
  refine ⟨later, hlater.trans ?_⟩
  rw [hpair]

end Writer

/-! ## The reader's keys -/

namespace Reader

/-- A static key that a reader finds in the next segment of its message. -/
def OpensNext (tagLength : Nat) (r : Reader T) (key : PublicKey) : Prop :=
  ∃ segment rest, Bytes.split? (keyLength + tagLength) r.rest = some (segment, rest) ∧
    (Transcript.decrypt r.transcript segment []).1 = .ok key.toBytes

/-- A static key that a reader finds in the segment of one of these tokens, having read those
before. -/
def Opens (K : KeyAgreement) (role : Role) (tagLength : Nat) (r : Reader T) (ts : List Token)
    (key : PublicKey) : Prop :=
  ∃ before after there, ts = before ++ .send .static :: after ∧
    r.tokens K role tagLength before = .ok there ∧ there.OpensNext tagLength key

variable {tagLength : Nat}

theorem Opens.cons {r next : Reader T} {t : Token} {ts : List Token} {key : PublicKey}
    (htoken : r.token K role tagLength t = .ok next) (h : next.Opens K role tagLength ts key) :
    r.Opens K role tagLength (t :: ts) key := by
  rcases h with ⟨before, after, there, rfl, hthere, hopens⟩
  exact ⟨t :: before, after, there, rfl, tokens_cons_eq_ok.2 ⟨next, htoken, hthere⟩, hopens⟩

/-- Keys that a reader can have after some tokens: those of its peer may be new, the static one if it
satisfies a condition. -/
def KeysChange (before after : Keyring) (allowed : PublicKey → Prop) : Prop :=
  ∃ static ephemeral,
    after = { before with peerStatic := static, peerEphemeral := ephemeral } ∧
      (static = before.peerStatic ∨ ∃ key, static = some key ∧ allowed key)

theorem KeysChange.refl (keys : Keyring) (allowed : PublicKey → Prop) :
    KeysChange keys keys allowed :=
  ⟨keys.peerStatic, keys.peerEphemeral, rfl, .inl rfl⟩

theorem KeysChange.mono {before after : Keyring} {allowed wider : PublicKey → Prop}
    (h : KeysChange before after allowed) (hwider : ∀ key, allowed key → wider key) :
    KeysChange before after wider := by
  rcases h with ⟨static, ephemeral, hkeys, hstatic⟩
  refine ⟨static, ephemeral, hkeys, hstatic.imp_right ?_⟩
  rintro ⟨key, hkey, hallowed⟩
  exact ⟨key, hkey, hwider key hallowed⟩

theorem KeysChange.trans {first second third : Keyring} {allowed : PublicKey → Prop}
    (h : KeysChange first second allowed) (h' : KeysChange second third allowed) :
    KeysChange first third allowed := by
  rcases h with ⟨static, ephemeral, rfl, hstatic⟩
  rcases h' with ⟨later, ephemeral', rfl, hlater⟩
  refine ⟨later, ephemeral', rfl, ?_⟩
  -- A later key counts; if there is none, it is the one from before.
  rcases hlater with rfl | hnew
  · exact hstatic
  · exact .inr hnew

/-- A reader that lacks a static key has lacked it before. -/
theorem KeysChange.lacks_static {before after : Keyring} {allowed : PublicKey → Prop} {role : Role}
    (h : KeysChange before after allowed) (hlacks : after.Lacks role .static .static) :
    before.Lacks role .static .static := by
  rcases h with ⟨static, ephemeral, rfl, hstatic⟩
  rcases hlacks with hown | hpeer
  · exact .inl (by cases role <;> exact hown)
  · rcases hstatic with rfl | ⟨key, rfl, _⟩
    · exact .inr (by cases role <;> exact hpeer)
    · cases role <;> cases hpeer

theorem token_keys (K : KeyAgreement) (role : Role) (tagLength : Nat) (r : Reader T) (t : Token) :
    KeysChange r.keys (Interruption.last (r.token K role tagLength t)).keys
      fun key => t = .send .static ∧ r.OpensNext tagLength key := by
  unfold token
  split
  · unfold ephemeral
    split
    · exact .refl _ _
    · split
      · exact .refl _ _
      · exact ⟨r.keys.peerStatic, some _, rfl, .inl rfl⟩
  · unfold static
    split
    · exact .refl _ _
    · next segment rest hsplit =>
      split
      · exact .refl _ _
      · next opened u hopen =>
        split
        · exact .refl _ _
        · next key hkey =>
          have hopened : (Transcript.decrypt r.transcript segment []).1 = .ok key.toBytes := by
            rw [hopen, PublicKey.toBytes_of_ofBytes hkey]
          exact ⟨some key, r.keys.peerEphemeral, rfl,
            .inr ⟨key, rfl, rfl, segment, rest, hsplit, hopened⟩⟩
  · split <;> exact .refl _ _

/-- Reading tokens changes the keys of the peer and no other, the static one to a key that one of the
tokens opens. -/
theorem tokens_keys (K : KeyAgreement) (role : Role) (tagLength : Nat) (r : Reader T)
    (ts : List Token) :
    KeysChange r.keys (Interruption.last (r.tokens K role tagLength ts)).keys
      (r.Opens K role tagLength ts) := by
  induction ts generalizing r with
  | nil => exact .refl _ _
  | cons t ts ih =>
    have hone := r.token_keys K role tagLength t
    -- What this token opens it opens with nothing read before it, what a later one opens with more.
    have hnow : ∀ key, (t = .send .static ∧ r.OpensNext tagLength key) →
        r.Opens K role tagLength (t :: ts) key := by
      rintro key ⟨rfl, hopens⟩
      exact ⟨[], ts, r, rfl, rfl, hopens⟩
    rw [tokens_cons]
    cases htoken : r.token K role tagLength t with
    | error stopped =>
      rw [htoken] at hone
      exact hone.mono hnow
    | ok next =>
      rw [htoken] at hone
      exact (hone.mono hnow).trans ((ih next).mono fun key hopens => hopens.cons htoken)

end Reader

/-! ## Calls -/

namespace Handshake

/-- A static key that a call finds sealed in a message and opens. -/
def Opens (h : Handshake K T) (message : Bytes) (key : PublicKey) : Prop :=
  ∃ step t, h.step? = some step ∧ h.transcript = some t ∧
    Reader.Opens K h.role h.tagLength { transcript := t, keys := h.keys, rest := message }
      step.tokens key

theorem Attempt.role_eq {h : Handshake K T} {buffer : Bytes} {o : Outcome K T}
    (attempt : h.Attempt buffer o) : o.state.role = h.role := by
  cases attempt with
  | ended | malformed | stopped => rfl
  | finished t keys appended report =>
    rw [finishStep_eq]
    split <;> rfl

theorem finishStep_keys (h : Handshake K T) (t : T) (keys : Keyring) (buffer : Bytes)
    (report : Event) : ((h.holding t keys).finishStep buffer report).state.keys = keys := by
  rw [finishStep_eq]
  split <;> rfl

theorem write_keys (h : Handshake K T) (payload buffer : Bytes) (random : RandomStream) :
    ∃ pair, (h.write payload buffer random).1.state.keys = { h.keys with ownEphemeral := pair } := by
  unfold write
  cases h.step? with
  | none => exact ⟨h.keys.ownEphemeral, rfl⟩
  | some step =>
    cases h.transcript with
    | none => exact ⟨h.keys.ownEphemeral, rfl⟩
    | some t =>
      have hkeys := Writer.tokens_keys K h.role
        { transcript := t, keys := h.keys, random, message := [] } step.tokens
      dsimp only
      generalize Writer.tokens K h.role { transcript := t, keys := h.keys, random, message := [] }
        step.tokens = result at hkeys ⊢
      cases result with
      | error stopped => exact hkeys
      | ok w =>
        dsimp only
        rw [finishStep_keys]
        exact hkeys

theorem read_keys (h : Handshake K T) (message buffer : Bytes) :
    Reader.KeysChange h.keys (h.read message buffer).state.keys (h.Opens message) := by
  unfold read
  cases hstep : h.step? with
  | none => exact .refl _ _
  | some step =>
    dsimp only
    split
    · exact .refl _ _
    · cases ht : h.transcript with
      | none => exact .refl _ _
      | some t =>
        have hkeys := Reader.tokens_keys K h.role h.tagLength
          { transcript := t, keys := h.keys, rest := message } step.tokens
        have hopens := hkeys.mono fun key hkey => (⟨step, t, hstep, ht, hkey⟩ : h.Opens message key)
        -- Opened or not, the payload leaves the keys as the tokens left them.
        dsimp only
        generalize Reader.tokens K h.role h.tagLength
          { transcript := t, keys := h.keys, rest := message } step.tokens = result at hopens ⊢
        cases result with
        | error stopped => exact hopens
        | ok r =>
          dsimp only
          split
          · exact hopens
          · rw [finishStep_keys]
            exact hopens

/-- How little a call on a handshake changes, whatever its arguments and whatever comes of it. -/
structure Confined {permute : Block → Block} (h : Handshake K (DuplexTranscript permute)) : Prop where
  /-- A call that fails leaves the buffer as it was. -/
  buffer_of_error : ∀ call e, (h.perform call).result = .error e → (h.perform call).buffer = call.buffer
  /-- What is written, and all else that a call does, is the same whatever the buffer holds. -/
  write_behind : ∀ payload buffer random,
    h.write payload buffer random =
      ((h.write payload [] random).1.behind buffer, (h.write payload [] random).2)
  read_behind : ∀ message buffer, h.read message buffer = (h.read message []).behind buffer
  /-- It comes to the same to work in the buffer itself, and to undo there what has to be undone. -/
  writeInPlace_eq : ∀ payload buffer random,
    h.writeInPlace payload buffer random = h.write payload buffer random
  readInPlace_eq : ∀ message buffer, h.readInPlace message buffer = h.read message buffer
  role_eq : ∀ call, (h.perform call).state.role = h.role
  pattern_eq : ∀ call, (h.perform call).state.pattern = h.pattern
  ownStatic_eq : ∀ call, (h.perform call).state.keys.ownStatic = h.keys.ownStatic
  write_peer : ∀ payload buffer random kind,
    (h.write payload buffer random).1.state.keys.peer kind = h.keys.peer kind
  read_own : ∀ message buffer kind,
    (h.read message buffer).state.keys.own kind = h.keys.own kind
  /-- Even a read that fails takes no other static key than one that it has opened. -/
  read_peerStatic : ∀ message buffer,
    (h.read message buffer).state.keys.peerStatic = h.keys.peerStatic ∨
      ∃ key, (h.read message buffer).state.keys.peerStatic = some key ∧ h.Opens message key

/-- At every point of its life, a handshake and the buffer are changed by a call in these places only. -/
theorem frame_of_perform {permute : Block → Block} (h : Handshake K (DuplexTranscript permute)) :
    h.Confined := by
  have hwrite := h.write_keys
  have hread := h.read_keys
  refine
    { buffer_of_error := fun call _ herror => (h.attempt_perform call).buffer_of_error herror
      write_behind := h.write_behind
      read_behind := h.read_behind
      writeInPlace_eq := h.writeInPlace_eq
      readInPlace_eq := h.readInPlace_eq
      role_eq := fun call => (h.attempt_perform call).role_eq
      pattern_eq := fun call => (h.attempt_perform call).pattern_eq
      ownStatic_eq := ?_, write_peer := ?_, read_own := ?_, read_peerStatic := ?_ }
  · intro call
    cases call with
    | write payload buffer random =>
      rcases hwrite payload buffer random with ⟨pair, hkeys⟩
      rw [perform, hkeys]
    | read message buffer =>
      rcases hread message buffer with ⟨static, ephemeral, hkeys, _⟩
      rw [perform, hkeys]
  · intro payload buffer random kind
    rcases hwrite payload buffer random with ⟨pair, hkeys⟩
    rw [hkeys]
    cases kind <;> rfl
  · intro message buffer kind
    rcases hread message buffer with ⟨static, ephemeral, hkeys, _⟩
    rw [hkeys]
    cases kind <;> rfl
  · intro message buffer
    rcases hread message buffer with ⟨static, ephemeral, hkeys, hstatic⟩
    rw [hkeys]
    exact hstatic

end Handshake

end DuplexHandshake
