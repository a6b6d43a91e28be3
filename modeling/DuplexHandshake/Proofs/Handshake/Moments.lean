import DuplexHandshake.Proofs.Handshake.Reach

/-!
# The tokens that a party comes to

Let all messages of a party draw from one stream of randomness, the ones that are not finished included. Each
move comes to some tokens of its step, up to one that it may stop at. Here a run is told token by token, with
what the party has in hand for each: what a message gains by a token, and what is drawn for it, can be read off
there.
-/

namespace DuplexHandshake

namespace Interruption

variable {σ α : Type} {f : σ → α → Except (Interruption σ) σ}

/-- The items that work comes to, each with the state that it finds. Where the work stops, the item that it
stops at is the last. -/
def reached (f : σ → α → Except (Interruption σ) σ) : σ → List α → List (σ × α)
  | _, [] => []
  | s, a :: l =>
    (s, a) ::
      match f s a with
      | .ok next => reached f next l
      | .error _ => []

theorem mem_reached_iff {s s' : σ} {a : α} {l : List α} :
    (s', a) ∈ reached f s l ↔
      ∃ before after, l = before ++ a :: after ∧ before.foldlM f s = .ok s' := by
  induction l generalizing s with
  | nil => simp [reached]
  | cons b l ih =>
    rw [reached, List.mem_cons]
    constructor
    · rintro (hhere | hlater)
      · cases hhere
        exact ⟨[], l, rfl, rfl⟩
      · cases hone : f s b with
        | error stopped =>
          rw [hone] at hlater
          cases hlater
        | ok next =>
          rw [hone] at hlater
          obtain ⟨before, after, rfl, hbefore⟩ := ih.1 hlater
          refine ⟨b :: before, after, rfl, ?_⟩
          rw [List.foldlM_cons, hone]
          exact hbefore
    · rintro ⟨before, after, hl, hbefore⟩
      cases before with
      | nil =>
        cases hl
        cases hbefore
        exact .inl rfl
      | cons c before =>
        -- The work got past the first item, so it went on from there.
        cases hl
        rw [List.foldlM_cons] at hbefore
        cases hone : f s b with
        | error stopped =>
          rw [hone] at hbefore
          cases hbefore
        | ok next =>
          rw [hone] at hbefore
          exact .inr (ih.2 ⟨before, after, rfl, hbefore⟩)

/-- Telling of each item apart, one tells of those that the work comes to. -/
theorem mem_map_reached_iff {β : Type} {tell : σ × α → β} (hinjective : Function.Injective tell)
    {s s' : σ} {a : α} {l : List α} :
    tell (s', a) ∈ (reached f s l).map tell ↔
      ∃ before after, l = before ++ a :: after ∧ before.foldlM f s = .ok s' := by
  rw [← mem_reached_iff, List.mem_map]
  constructor
  · rintro ⟨item, hreached, hsame⟩
    cases hinjective hsame
    exact hreached
  · intro hreached
    exact ⟨(s', a), hreached, rfl⟩

end Interruption

/-- A token that a party comes to, and what it has in hand by then. -/
inductive Moment (T : Type) where
  | write (w : Writer T) (t : Token)
  | read (r : Reader T) (t : Token)

namespace Moment

variable {T : Type}

theorem write_injective : Function.Injective fun p : Writer T × Token => write p.1 p.2 := by
  rintro ⟨w, t⟩ ⟨w', t'⟩ h
  cases h
  rfl

theorem read_injective : Function.Injective fun p : Reader T × Token => read p.1 p.2 := by
  rintro ⟨r, t⟩ ⟨r', t'⟩ h
  cases h
  rfl

def keys : Moment T → Keyring
  | write w _ => w.keys
  | read r _ => r.keys

/-- Whether an ephemeral key is made. -/
def draws : Moment T → Bool
  | write _ (.send .ephemeral) => true
  | _ => false

/-- The ephemeral pair that is made, if one is. -/
def made? (K : KeyAgreement) : Moment T → Option KeyPair
  | write w (.send .ephemeral) => some (K.keyPair w.random.drawKey.1)
  | _ => none

/-- The bytes that a message gains by a token. -/
def sends [Transcript T] (K : KeyAgreement) : Moment T → Bytes
  | write w (.send .ephemeral) => (K.keyPair w.random.drawKey.1).publicKey.toBytes
  | write w (.send .static) =>
    match w.keys.ownStatic with
    | some pair => (Transcript.encrypt w.transcript pair.publicKey.toBytes []).1
    | none => []
  | _ => []

end Moment

/-! ## Runs that draw from one stream -/

/-- A call of a party whose messages all draw from one stream. -/
inductive Move where
  | write (payload buffer : Bytes)
  | read (message buffer : Bytes)

namespace Handshake

variable {K : KeyAgreement} {T : Type} [Transcript T]

/-- What comes of a move, and the stream afterwards. -/
def play (h : Handshake K T) (random : RandomStream) : Move → Outcome K T × RandomStream
  | .write payload buffer => h.write payload buffer random
  | .read message buffer => (h.read message buffer, random)

/-- The handshake and the stream after some moves, whatever came of each. -/
def playAll (h : Handshake K T) (random : RandomStream) : List Move → Handshake K T × RandomStream
  | [] => (h, random)
  | move :: rest => (h.play random move).1.state.playAll (h.play random move).2 rest

/-- The tokens that a move comes to. -/
def moments (h : Handshake K T) (random : RandomStream) (move : Move) : List (Moment T) :=
  match h.step?, h.transcript with
  | some step, some transcript =>
    match move with
    | .write _ _ =>
      (Interruption.reached (Writer.token K h.role)
        { transcript, keys := h.keys, random, message := [] } step.tokens).map fun p => .write p.1 p.2
    | .read message _ =>
      if message.length < step.tokenLength h.tagLength then []
      else
        (Interruption.reached (Reader.token K h.role h.tagLength)
          { transcript, keys := h.keys, rest := message } step.tokens).map fun p => .read p.1 p.2
  | _, _ => []

def momentsAll (h : Handshake K T) (random : RandomStream) : List Move → List (Moment T)
  | [] => []
  | move :: rest =>
    h.moments random move ++ (h.play random move).1.state.momentsAll (h.play random move).2 rest

theorem role_playAll (h : Handshake K T) (left : RandomStream) (moves : List Move) :
    (h.playAll left moves).1.role = h.role := by
  induction moves generalizing h left with
  | nil => rfl
  | cons move rest ih =>
    refine (ih _ _).trans ?_
    cases move with
    | write payload buffer => exact (h.attempt_write payload buffer left).role_eq
    | read message buffer => exact (h.attempt_read message buffer).role_eq

theorem momentsAll_concat (h : Handshake K T) (left : RandomStream) (moves : List Move) (move : Move) :
    h.momentsAll left (moves ++ [move]) =
      h.momentsAll left moves ++ (h.playAll left moves).1.moments (h.playAll left moves).2 move := by
  induction moves generalizing h left with
  | nil => exact List.append_nil _
  | cons first rest ih =>
    rw [List.cons_append, momentsAll, momentsAll, ih, List.append_assoc]
    rfl

/-! ## Coming to a token -/

theorem moments_write {h : Handshake K T} {step : Step} {transcript : T} (hstep : h.step? = some step)
    (ht : h.transcript = some transcript) (left : RandomStream) (payload buffer : Bytes) :
    h.moments left (.write payload buffer) =
      (Interruption.reached (Writer.token K h.role)
        { transcript, keys := h.keys, random := left, message := [] } step.tokens).map
          fun p => .write p.1 p.2 := by
  unfold moments
  rw [hstep, ht]

theorem moments_read {h : Handshake K T} {step : Step} {transcript : T} (hstep : h.step? = some step)
    (ht : h.transcript = some transcript) {message : Bytes}
    (hlong : step.tokenLength h.tagLength ≤ message.length) (left : RandomStream) (buffer : Bytes) :
    h.moments left (.read message buffer) =
      (Interruption.reached (Reader.token K h.role h.tagLength)
        { transcript, keys := h.keys, rest := message } step.tokens).map fun p => .read p.1 p.2 := by
  unfold moments
  rw [hstep, ht]
  exact if_neg (Nat.not_lt_of_le hlong)

/-- The moments of a write are those that it comes to. -/
theorem mem_moments_write_iff (h : Handshake K T) (left : RandomStream) (payload buffer : Bytes)
    (w : Writer T) (t : Token) :
    .write w t ∈ h.moments left (.write payload buffer) ↔ h.WriteReaches left t w := by
  constructor
  · intro hmem
    unfold moments at hmem
    split at hmem
    · next step transcript hstep ht =>
      obtain ⟨before, after, hsplit, hbefore⟩ :=
        (Interruption.mem_map_reached_iff Moment.write_injective).1 hmem
      exact ⟨step, transcript, before, after, hstep, hsplit, ht, hbefore⟩
    · cases hmem
  · rintro ⟨step, transcript, before, after, hstep, hsplit, ht, hbefore⟩
    rw [moments_write hstep ht]
    exact (Interruption.mem_map_reached_iff Moment.write_injective).2 ⟨before, after, hsplit, hbefore⟩

theorem mem_moments_read_iff (h : Handshake K T) (left : RandomStream) (message buffer : Bytes)
    (r : Reader T) (t : Token) :
    .read r t ∈ h.moments left (.read message buffer) ↔ h.ReadReaches message t r := by
  constructor
  · intro hmem
    unfold moments at hmem
    split at hmem
    · next step transcript hstep ht =>
      dsimp only at hmem
      split at hmem
      · cases hmem
      · next hlong =>
        obtain ⟨before, after, hsplit, hbefore⟩ :=
          (Interruption.mem_map_reached_iff Moment.read_injective).1 hmem
        exact ⟨step, transcript, before, after, hstep, hsplit, ht, Nat.le_of_not_lt hlong, hbefore⟩
    · cases hmem
  · rintro ⟨step, transcript, before, after, hstep, hsplit, ht, hlong, hbefore⟩
    rw [moments_read hstep ht hlong]
    exact (Interruption.mem_map_reached_iff Moment.read_injective).2 ⟨before, after, hsplit, hbefore⟩

end Handshake

/-! ## What is sent -/

section Sending

variable {K : KeyAgreement} {T : Type} [Transcript T] {role : Role}

/-- What a token adds to a message does not depend on the own ephemeral pair in hand. -/
theorem Moment.sends_blind (w : Writer T) (t : Token) (pair : Option KeyPair) :
    (Moment.write { w with keys := { w.keys with ownEphemeral := pair } } t).sends K =
      (Moment.write w t).sends K := by
  cases t with
  | send kind => cases kind <;> rfl
  | mix initiator responder => rfl

theorem Writer.message_of_token {w next : Writer T} {t : Token} (h : w.token K role t = .ok next) :
    next.message = w.message ++ (Moment.write w t).sends K := by
  unfold token at h
  split at h
  · cases h
    rfl
  · split at h
    · cases h
    · next hown =>
      cases h
      rw [Moment.sends, hown]
      rfl
  · split at h
    · cases h
    · cases h
      exact (List.append_nil _).symm

theorem Writer.message_of_tokens {w last : Writer T} {ts : List Token}
    (h : w.tokens K role ts = .ok last) :
    last.message = w.message ++
      ((Interruption.reached (Writer.token K role) w ts).map fun p => .write p.1 p.2).flatMap
        (Moment.sends K) := by
  induction ts generalizing w with
  | nil =>
    cases h
    exact (List.append_nil _).symm
  | cons t ts ih =>
    obtain ⟨next, hone, hrest⟩ := Writer.tokens_cons_eq_ok.1 h
    rw [ih hrest, Writer.message_of_token hone, Interruption.reached, hone, List.map_cons,
      List.flatMap_cons, List.append_assoc]

end Sending

namespace Handshake

variable {K : KeyAgreement} {T : Type} [Transcript T] {h : Handshake K T} {left : RandomStream}

/-- What the moments of its next move tell about a handshake. -/
structure Traced (h : Handshake K T) (left : RandomStream) : Prop where
  /-- They are what the move comes to. -/
  mem_write_iff : ∀ payload buffer w t,
    .write w t ∈ h.moments left (.write payload buffer) ↔ h.WriteReaches left t w
  mem_read_iff : ∀ message buffer r t,
    .read r t ∈ h.moments left (.read message buffer) ↔ h.ReadReaches message t r
  /-- A message that is written is what they send, and the sealed payload. -/
  sent : ∀ payload buffer channels, (h.write payload buffer left).1.result = .ok channels →
    ∃ t : T, (h.write payload buffer left).1.buffer = buffer ++
      ((h.moments left (.write payload buffer)).flatMap (Moment.sends K) ++
        (Transcript.encrypt t payload []).1)
  /-- When all steps are done there is nothing to come to, and nothing is drawn. -/
  ended : h.phase = .finished → ∀ payload buffer,
    h.moments left (.write payload buffer) = [] ∧
      h.write payload buffer left = (h.refuse buffer .alreadyComplete, left)

/-- A message that is written is what its tokens send, and the sealed payload. -/
theorem buffer_of_write {h : Handshake K T} {payload buffer : Bytes} {left : RandomStream}
    {channels : Option (Channels T)} (hok : (h.write payload buffer left).1.result = .ok channels) :
    ∃ t : T, (h.write payload buffer left).1.buffer = buffer ++
      ((h.moments left (.write payload buffer)).flatMap (Moment.sends K) ++
        (Transcript.encrypt t payload []).1) := by
  obtain ⟨step, t, w, hstep, ht, hw, hwrite⟩ := write_of_ok hok
  refine ⟨w.transcript, ?_⟩
  rw [hwrite, finishStep_buffer, Writer.message_of_tokens hw, List.nil_append,
    moments_write hstep ht]

theorem write_of_finished (hphase : h.phase = .finished) (payload buffer : Bytes) :
    h.moments left (.write payload buffer) = [] ∧
      h.write payload buffer left = (h.refuse buffer .alreadyComplete, left) := by
  have hdone : ¬ h.done < h.pattern.steps.length := fun hlt => h.phase_ne_finished_iff.2 hlt hphase
  have hstep : h.step? = none := h.step?_eq_none_iff.2 (Nat.le_of_not_lt hdone)
  unfold moments write
  rw [hstep]
  exact ⟨rfl, rfl⟩

theorem traced (h : Handshake K T) (left : RandomStream) : h.Traced left where
  mem_write_iff := h.mem_moments_write_iff left
  mem_read_iff := h.mem_moments_read_iff left
  sent _ _ _ := buffer_of_write
  ended := write_of_finished

end Handshake

end DuplexHandshake
