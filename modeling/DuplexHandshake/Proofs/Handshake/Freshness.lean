import DuplexHandshake.Proofs.Handshake.Moments

/-!
# Fresh ephemeral keys

Where all messages of a party draw from one stream, the secret of the `n`-th ephemeral key that the party makes
is the `n`-th block of the stream, and nothing else takes anything from it. An ephemeral pair serves every
shared secret until the next one takes its place, and so a pair that the party brought along serves only up to
the first; it is never sent.
-/

namespace DuplexHandshake

/-! ## Blocks of a stream -/

namespace RandomStream

/-- The stream when so many keys have been drawn. -/
def skip (r : RandomStream) (n : Nat) : RandomStream :=
  { r with position := r.position + keyLength * n }

/-- The bytes that are left for a key when so many keys have been drawn. -/
def block (r : RandomStream) (n : Nat) : SecretKey :=
  ⟨Vector.ofFn fun i => r.byte (r.position + keyLength * n + i.val)⟩

theorem skip_zero (r : RandomStream) : r.skip 0 = r :=
  rfl

/-- Of two blocks of a stream the first ends before the second begins. -/
theorem position_skip_lt (r : RandomStream) {m n : Nat} (h : m < n) :
    (r.skip m).position + keyLength ≤ (r.skip n).position := by
  have hblocks : keyLength * (m + 1) ≤ keyLength * n := Nat.mul_le_mul_left keyLength h
  rw [Nat.mul_succ] at hblocks
  show r.position + keyLength * m + keyLength ≤ r.position + keyLength * n
  omega

theorem drawKey_skip (r : RandomStream) (n : Nat) :
    (r.skip n).drawKey = (r.block n, r.skip (n + 1)) := by
  unfold drawKey skip
  rw [Nat.mul_succ, ← Nat.add_assoc]
  rfl

end RandomStream

/-- Key pairs that are drawn one after another are made of one block each. -/
theorem KeyAgreement.drawPairs_skip (K : KeyAgreement) (r : RandomStream) (count n : Nat) :
    K.drawPairs count (r.skip n) =
      ((List.range' n count).map fun j => K.keyPair (r.block j), r.skip (n + count)) := by
  induction count generalizing n with
  | zero => rfl
  | succ count ih =>
    rw [drawPairs, r.drawKey_skip]
    dsimp only
    rw [ih, List.range'_succ, List.map_cons, Nat.add_assoc, Nat.add_comm 1]

/-! ## Keeping pace -/

/-- The own ephemeral pair of a party that has made `n` of them: the last one, or the one that it brought
along if it has made none. -/
def latestPair (K : KeyAgreement) (own : Option KeyPair) (random : RandomStream) : Nat → Option KeyPair
  | 0 => own
  | n + 1 => some (K.keyPair (random.block n))

section Pace

variable (K : KeyAgreement) (own : Option KeyPair) (random : RandomStream) {T : Type}

/-- What is in hand when `n` ephemeral pairs have been made. -/
structure Writer.Paced (n : Nat) (w : Writer T) : Prop where
  random_eq : w.random = random.skip n
  ownEphemeral_eq : w.keys.ownEphemeral = latestPair K own random n

def Reader.Paced (n : Nat) (r : Reader T) : Prop :=
  r.keys.ownEphemeral = latestPair K own random n

namespace Moment

def Paced (n : Nat) : Moment T → Prop
  | write w _ => w.Paced K own random n
  | read r _ => r.Paced K own random n

/-- All of these moments keep pace, if `n` ephemeral pairs had been made before them. -/
def AllPaced : Nat → List (Moment T) → Prop
  | _, [] => True
  | n, m :: rest => m.Paced K own random n ∧ AllPaced (n + if m.draws then 1 else 0) rest

variable {K own random}

theorem draws_write_iff {w : Writer T} {t : Token} : (write w t).draws ↔ t = .send .ephemeral := by
  unfold draws
  split
  · next hmoment =>
    cases hmoment
    exact iff_of_true rfl rfl
  · next hother => exact iff_of_false (fun h => nomatch h) fun ht => hother w (by rw [ht])

theorem exists_write_of_draws {m : Moment T} (h : m.draws) : ∃ w, m = write w (.send .ephemeral) := by
  unfold draws at h
  split at h
  · next w => exact ⟨w, rfl⟩
  · cases h

theorem made?_of_not_draws {m : Moment T} (h : ¬ m.draws) : m.made? K = none := by
  unfold made?
  split
  · exact absurd rfl h
  · rfl

theorem countP_draws_lt (before : List (Moment T)) (w : Writer T) (between : List (Moment T)) :
    before.countP draws < (before ++ write w (.send .ephemeral) :: between).countP draws := by
  rw [List.countP_append, List.countP_cons_of_pos rfl]
  omega

theorem countP_draws_read (l : List (Reader T × Token)) :
    (l.map fun p => read p.1 p.2).countP draws = 0 := by
  rw [List.countP_eq_zero]
  intro m hm
  obtain ⟨_, _, rfl⟩ := List.mem_map.1 hm
  exact fun h => nomatch h

theorem allPaced_append {n : Nat} {before after : List (Moment T)} :
    AllPaced K own random n (before ++ after) ↔
      AllPaced K own random n before ∧ AllPaced K own random (n + before.countP draws) after := by
  induction before generalizing n with
  | nil => exact ⟨fun h => ⟨trivial, h⟩, And.right⟩
  | cons m before ih =>
    have hcount : n + (if m.draws then 1 else 0) + before.countP draws = n + (m :: before).countP draws := by
      rw [List.countP_cons]
      omega
    rw [List.cons_append, AllPaced, ih, hcount, AllPaced, and_assoc]

theorem Paced.ownEphemeral_eq {n : Nat} {m : Moment T} (h : m.Paced K own random n) :
    m.keys.ownEphemeral = latestPair K own random n := by
  cases m with
  | write w t => exact Writer.Paced.ownEphemeral_eq h
  | read r t => exact h

/-- The pairs that are made are those of the next blocks, in their order. -/
theorem made_of_allPaced {n : Nat} {ms : List (Moment T)} (h : AllPaced K own random n ms) :
    ms.filterMap (made? K) =
      (List.range' n (ms.countP draws)).map fun j => K.keyPair (random.block j) := by
  induction ms generalizing n with
  | nil => rfl
  | cons m rest ih =>
    obtain ⟨hpaced, hrest⟩ := h
    have htail := ih hrest
    by_cases hdraws : m.draws
    · obtain ⟨w, rfl⟩ := exists_write_of_draws hdraws
      have hmade : (write w (.send .ephemeral)).made? K = some (K.keyPair (random.block n)) := by
        rw [made?, hpaced.random_eq, RandomStream.drawKey_skip]
      rw [List.filterMap_cons_some hmade, htail, List.countP_cons_of_pos hdraws, if_pos hdraws,
        List.range'_succ, List.map_cons]
    · rw [List.filterMap_cons_none (made?_of_not_draws hdraws), htail, List.countP_cons_of_neg hdraws,
        if_neg hdraws, Nat.add_zero]

/-- Each moment keeps pace with the pairs that were made before it. -/
theorem paced_of_allPaced {before after : List (Moment T)} {m : Moment T}
    (h : AllPaced K own random 0 (before ++ m :: after)) : m.Paced K own random (before.countP draws) := by
  have hpaced := (allPaced_append.1 h).2.1
  rwa [Nat.zero_add] at hpaced

end Moment

end Pace

section Runs

variable {K : KeyAgreement} {own : Option KeyPair} {random : RandomStream} {T : Type} [Transcript T]
  {role : Role}

/-! ### One token -/

theorem Writer.token_ephemeral (K : KeyAgreement) (role : Role) (w : Writer T) {n : Nat}
    (hrandom : w.random = random.skip n) :
    w.token K role (.send .ephemeral) = .ok
      { transcript := Transcript.sendClear w.transcript (K.keyPair (random.block n)).publicKey.toBytes
        keys := { w.keys with ownEphemeral := some (K.keyPair (random.block n)) }
        random := random.skip (n + 1)
        message := w.message ++ (K.keyPair (random.block n)).publicKey.toBytes } := by
  unfold token
  rw [hrandom, RandomStream.drawKey_skip]

/-- No other token takes anything from the stream, or changes a key. -/
theorem Writer.token_kept (K : KeyAgreement) (role : Role) (w : Writer T) {t : Token}
    (h : t ≠ .send .ephemeral) :
    (Interruption.last (w.token K role t)).random = w.random ∧
      (Interruption.last (w.token K role t)).keys = w.keys := by
  unfold token
  split
  · exact absurd rfl h
  · cases w.keys.ownStatic with
    | none => exact ⟨rfl, rfl⟩
    | some pair => exact ⟨rfl, rfl⟩
  · split <;> exact ⟨rfl, rfl⟩

/-- A writer keeps pace from one token to the next, be it done or stopped. -/
theorem Writer.Paced.token {n : Nat} {w : Writer T} (h : w.Paced K own random n) (t : Token) :
    (Interruption.last (w.token K role t)).Paced K own random
      (n + if (Moment.write w t).draws then 1 else 0) := by
  by_cases ht : t = .send .ephemeral
  · subst ht
    rw [w.token_ephemeral K role h.random_eq]
    exact ⟨rfl, rfl⟩
  · obtain ⟨hrandom, hkeys⟩ := w.token_kept K role ht
    rw [if_neg (mt Moment.draws_write_iff.1 ht)]
    exact ⟨hrandom.trans h.random_eq, by rw [hkeys, Nat.add_zero, h.ownEphemeral_eq]⟩

theorem Reader.Paced.token {n tagLength : Nat} {r : Reader T} (h : r.Paced K own random n) (t : Token) :
    (Interruption.last (r.token K role tagLength t)).Paced K own random
      (n + if (Moment.read r t).draws then 1 else 0) := by
  obtain ⟨static, ephemeral, hkeys, -⟩ := r.token_keys K role tagLength t
  show (Interruption.last (r.token K role tagLength t)).keys.ownEphemeral = latestPair K own random n
  rw [hkeys]
  exact h

/-! ### The tokens of a step -/

omit [Transcript T] in
/-- Work keeps pace over several tokens if it does from each to the next. -/
theorem Moment.allPaced_reached {σ : Type} (f : σ → Token → Except (Interruption σ) σ)
    (moment : σ × Token → Moment T) {P : Nat → σ → Prop}
    (hmoment : ∀ {n s} t, P n s → (moment (s, t)).Paced K own random n)
    (htoken : ∀ {n s} t, P n s →
      P (n + if (moment (s, t)).draws then 1 else 0) (Interruption.last (f s t)))
    {n : Nat} {s : σ} (h : P n s) (ts : List Token) :
    AllPaced K own random n ((Interruption.reached f s ts).map moment) ∧
      P (n + ((Interruption.reached f s ts).map moment).countP draws)
        (Interruption.last (ts.foldlM f s)) := by
  -- How many pairs had been made changes with each token, so the induction is for any number.
  induction ts generalizing n s with
  | nil => exact ⟨trivial, h⟩
  | cons t ts ih =>
    have hone := htoken t h
    rw [List.foldlM_cons, Interruption.reached, List.map_cons, AllPaced, List.countP_cons]
    cases hresult : f s t with
    | error stopped =>
      rw [hresult] at hone
      refine ⟨⟨hmoment t h, trivial⟩, ?_⟩
      rw [List.map_nil, List.countP_nil, Nat.zero_add]
      exact hone
    | ok next =>
      rw [hresult] at hone
      obtain ⟨hrest, hlast⟩ := ih hone
      refine ⟨⟨hmoment t h, hrest⟩, ?_⟩
      rw [Nat.add_comm (List.countP _ _), ← Nat.add_assoc]
      exact hlast

/-! ### Moves -/

namespace Handshake

/-- How a handshake and its stream stand when `n` ephemeral pairs have been made. -/
structure Paced (own : Option KeyPair) (random : RandomStream) (n : Nat) (h : Handshake K T)
    (left : RandomStream) : Prop where
  random_eq : left = random.skip n
  ownEphemeral_eq : h.keys.ownEphemeral = latestPair K own random n

/-- The keys and the stream that a write leaves are those that its tokens leave. -/
theorem write_last {h : Handshake K T} {step : Step} {t : T} (hstep : h.step? = some step)
    (ht : h.transcript = some t) (payload buffer : Bytes) (left : RandomStream) :
    (h.write payload buffer left).1.state.keys =
        (Interruption.last (Writer.tokens K h.role
          { transcript := t, keys := h.keys, random := left, message := [] } step.tokens)).keys ∧
      (h.write payload buffer left).2 =
        (Interruption.last (Writer.tokens K h.role
          { transcript := t, keys := h.keys, random := left, message := [] } step.tokens)).random := by
  unfold write
  rw [hstep, ht]
  dsimp only
  cases Writer.tokens K h.role { transcript := t, keys := h.keys, random := left, message := [] }
      step.tokens with
  | error stopped => exact ⟨rfl, rfl⟩
  | ok w => exact ⟨finishStep_keys _ _ _ _ _, rfl⟩

theorem Paced.write {n : Nat} {h : Handshake K T} {left : RandomStream} (paced : h.Paced own random n left)
    (payload buffer : Bytes) :
    Moment.AllPaced K own random n (h.moments left (.write payload buffer)) ∧
      (h.write payload buffer left).1.state.Paced own random
        (n + (h.moments left (.write payload buffer)).countP Moment.draws)
        (h.write payload buffer left).2 := by
  unfold moments
  cases hstep : h.step? with
  | none =>
    unfold Handshake.write
    rw [hstep]
    exact ⟨trivial, paced⟩
  | some step =>
    cases ht : h.transcript with
    | none =>
      unfold Handshake.write
      rw [hstep, ht]
      exact ⟨trivial, paced⟩
    | some t =>
      have hstart : Writer.Paced K own random n
          ({ transcript := t, keys := h.keys, random := left, message := [] } : Writer T) :=
        ⟨paced.random_eq, paced.ownEphemeral_eq⟩
      have hall := Moment.allPaced_reached (Writer.token K h.role) (fun p => .write p.1 p.2)
        (fun _ hw => hw) (fun t hw => hw.token t) hstart step.tokens
      obtain ⟨hkeys, hleft⟩ := write_last hstep ht payload buffer left
      refine ⟨hall.1, hleft.trans hall.2.random_eq, ?_⟩
      rw [hkeys]
      exact hall.2.ownEphemeral_eq

theorem Paced.read {n : Nat} {h : Handshake K T} {left : RandomStream} (paced : h.Paced own random n left)
    (message buffer : Bytes) :
    Moment.AllPaced K own random n (h.moments left (.read message buffer)) ∧
      (h.read message buffer).state.Paced own random
        (n + (h.moments left (.read message buffer)).countP Moment.draws) left := by
  have hown : (h.read message buffer).state.keys.ownEphemeral = latestPair K own random n := by
    obtain ⟨static, ephemeral, hkeys, -⟩ := h.read_keys message buffer
    rw [hkeys]
    exact paced.ownEphemeral_eq
  have hstate : (h.read message buffer).state.Paced own random n left := ⟨paced.random_eq, hown⟩
  unfold moments
  cases h.step? with
  | none => exact ⟨trivial, hstate⟩
  | some step =>
    cases h.transcript with
    | none => exact ⟨trivial, hstate⟩
    | some t =>
      dsimp only
      split
      · exact ⟨trivial, hstate⟩
      · have hstart : Reader.Paced K own random n
            ({ transcript := t, keys := h.keys, rest := message } : Reader T) :=
          paced.ownEphemeral_eq
        have hall := Moment.allPaced_reached (Reader.token K h.role h.tagLength) (fun p => .read p.1 p.2)
          (fun _ hr => hr) (fun t hr => hr.token t) hstart step.tokens
        -- None of these tokens makes a pair of the reader's own.
        rw [Moment.countP_draws_read]
        exact ⟨hall.1, hstate⟩

/-- Whatever comes of a move, the handshake keeps pace. -/
theorem Paced.play {n : Nat} {h : Handshake K T} {left : RandomStream} (paced : h.Paced own random n left)
    (move : Move) :
    Moment.AllPaced K own random n (h.moments left move) ∧
      (h.play left move).1.state.Paced own random (n + (h.moments left move).countP Moment.draws)
        (h.play left move).2 := by
  cases move with
  | write payload buffer => exact paced.write payload buffer
  | read message buffer => exact paced.read message buffer

/-- And so it does over a whole run. -/
theorem Paced.playAll {n : Nat} {h : Handshake K T} {left : RandomStream}
    (paced : h.Paced own random n left) (moves : List Move) :
    Moment.AllPaced K own random n (h.momentsAll left moves) ∧
      (h.playAll left moves).1.Paced own random (n + (h.momentsAll left moves).countP Moment.draws)
        (h.playAll left moves).2 := by
  induction moves generalizing n h left with
  | nil => exact ⟨trivial, paced⟩
  | cons move rest ih =>
    obtain ⟨hone, hnext⟩ := paced.play move
    obtain ⟨hrest, hlast⟩ := ih hnext
    rw [momentsAll, List.countP_append, ← Nat.add_assoc]
    exact ⟨Moment.allPaced_append.2 ⟨hone, hrest⟩, hlast⟩

end Handshake

/-! ### Secrets -/

/-- The secret comes from the own ephemeral pair, if the own key that has a part in it is ephemeral. -/
theorem Keyring.of_sharedSecret {k : Keyring} {initiator responder : KeyKind} {shared : SharedSecret}
    (hselect : role.select initiator responder = .ephemeral)
    (h : k.sharedSecret K role initiator responder = .ok shared) :
    ∃ pair key, k.ownEphemeral = some pair ∧ k.peer (role.select responder initiator) = some key ∧
      K.sharedSecret pair key = .ok shared := by
  rw [sharedSecret, hselect] at h
  split at h
  · next pair key hpair hkey => exact ⟨pair, key, hpair, hkey, h⟩
  · cases h

theorem Writer.secret_of_token {w next : Writer T} {initiator responder : KeyKind}
    (h : w.token K role (.mix initiator responder) = .ok next) :
    ∃ shared, w.keys.sharedSecret K role initiator responder = .ok shared ∧
      next = { w with transcript := Transcript.mixKey w.transcript shared.bytes.toList } := by
  unfold token at h
  dsimp only at h
  split at h
  · cases h
  · next shared hshared =>
    cases h
    exact ⟨shared, hshared, rfl⟩

/-! ## Runs as a whole -/

/-- What holds of the moments of a party of this role that brought along the pair `own`, if it has one, and
draws from the stream `random`. -/
structure Moment.Fresh (K : KeyAgreement) (role : Role) (own : Option KeyPair) (random : RandomStream)
    (ms : List (Moment T)) : Prop where
  /-- The next ephemeral pair is made of the next block. Its public key is taken in and sent, and the pair
  takes the place of the one before. -/
  made : ∀ before w after, ms = before ++ .write w (.send .ephemeral) :: after →
    let pair := K.keyPair (random.block (before.countP draws))
    w.token K role (.send .ephemeral) = .ok
        { transcript := Transcript.sendClear w.transcript pair.publicKey.toBytes
          keys := { w.keys with ownEphemeral := some pair }
          random := random.skip (before.countP draws + 1)
          message := w.message ++ pair.publicKey.toBytes } ∧
      (Moment.write w (.send .ephemeral)).sends K = pair.publicKey.toBytes
  /-- What an ephemeral pair was made of ends before that of any later one begins. -/
  apart : ∀ before w between w' after,
    ms = before ++ .write w (.send .ephemeral) :: (between ++ .write w' (.send .ephemeral) :: after) →
      w.random.position + keyLength ≤ w'.random.position
  /-- No other token takes anything from the stream, or changes a key of the writer. -/
  kept : ∀ w t, .write w t ∈ ms → t ≠ .send .ephemeral →
    (Interruption.last (w.token K role t)).random = w.random ∧
      (Interruption.last (w.token K role t)).keys = w.keys
  /-- The own ephemeral pair in hand is the last one that was made, and the one that the party brought along
  only if there is none yet. -/
  ownEphemeral_eq : ∀ before m after, ms = before ++ m :: after →
    m.keys.ownEphemeral = latestPair K own random (before.countP draws)
  /-- That pair gives the secrets that the own ephemeral key has a part in. -/
  mixed_write : ∀ before w after initiator responder next,
    ms = before ++ .write w (.mix initiator responder) :: after →
      role.select initiator responder = .ephemeral →
        w.token K role (.mix initiator responder) = .ok next →
          ∃ pair key shared, latestPair K own random (before.countP draws) = some pair ∧
            w.keys.peer (role.select responder initiator) = some key ∧
            K.sharedSecret pair key = .ok shared ∧
            next = { w with transcript := Transcript.mixKey w.transcript shared.bytes.toList }
  mixed_read : ∀ before r after initiator responder tagLength next,
    ms = before ++ .read r (.mix initiator responder) :: after →
      role.select initiator responder = .ephemeral →
        r.token K role tagLength (.mix initiator responder) = .ok next →
          ∃ pair key shared, latestPair K own random (before.countP draws) = some pair ∧
            r.keys.peer (role.select responder initiator) = some key ∧
            K.sharedSecret pair key = .ok shared ∧
            next = { r with transcript := Transcript.mixKey r.transcript shared.bytes.toList }
  /-- What a token sends does not depend on the ephemeral pair that is in hand. -/
  blind : ∀ w t pair, .write w t ∈ ms →
    (Moment.write { w with keys := { w.keys with ownEphemeral := pair } } t).sends K =
      (Moment.write w t).sends K

theorem Moment.fresh_of_allPaced {ms : List (Moment T)} (h : AllPaced K own random 0 ms) :
    Fresh K role own random ms := by
  have hown : ∀ before m after, ms = before ++ m :: after →
      m.keys.ownEphemeral = latestPair K own random (before.countP draws) := by
    rintro before m after rfl
    exact (paced_of_allPaced h).ownEphemeral_eq
  refine
    { made := ?_
      apart := ?_
      kept := fun w t _ => w.token_kept K role
      ownEphemeral_eq := hown
      mixed_write := ?_
      mixed_read := ?_
      blind := fun w t pair _ => sends_blind w t pair }
  · rintro before w after rfl
    have hrandom := (paced_of_allPaced h).random_eq
    refine ⟨w.token_ephemeral K role hrandom, ?_⟩
    rw [sends, hrandom, RandomStream.drawKey_skip]
  · rintro before w between w' after rfl
    have hfirst := (paced_of_allPaced h).random_eq
    -- The second pair comes after all that stands before it, the first one included.
    rw [← List.cons_append, ← List.append_assoc] at h
    have hsecond := (paced_of_allPaced h).random_eq
    rw [hfirst, hsecond]
    exact random.position_skip_lt (countP_draws_lt before w between)
  · intro before w after initiator responder next hsplit hselect hnext
    obtain ⟨shared, hshared, rfl⟩ := Writer.secret_of_token hnext
    obtain ⟨pair, key, hpair, hkey, hagreed⟩ := Keyring.of_sharedSecret hselect hshared
    exact ⟨pair, key, shared, (hown before _ after hsplit).symm.trans hpair, hkey, hagreed, rfl⟩
  · intro before r after initiator responder tagLength next hsplit hselect hnext
    obtain ⟨_, htakes⟩ := Reader.token_eq_ok_iff.1 hnext
    cases htakes with
    | mix _ _ shared hshared =>
      obtain ⟨pair, key, hpair, hkey, hagreed⟩ := Keyring.of_sharedSecret hselect hshared
      exact ⟨pair, key, shared, (hown before _ after hsplit).symm.trans hpair, hkey, hagreed, rfl⟩

namespace Handshake

/-- What the ephemeral pairs of a run are, and what becomes of the stream. -/
structure FreshEphemerals (h : Handshake K T) (random : RandomStream) (moves : List Move) : Prop where
  moments : Moment.Fresh K h.role h.keys.ownEphemeral random (h.momentsAll random moves)
  /-- The pairs that are made, in their order, are those that come of drawing so many pairs from the stream. -/
  pairs_eq : (h.momentsAll random moves).filterMap (Moment.made? K) =
    (K.drawPairs ((h.momentsAll random moves).countP Moment.draws) random).1
  /-- Ephemeral pairs are all that is drawn. -/
  stream_eq : (h.playAll random moves).2 =
    random.skip ((h.momentsAll random moves).countP Moment.draws)
  role_eq : (h.playAll random moves).1.role = h.role
  /-- One more move adds the tokens that it comes to. -/
  momentsAll_concat : ∀ move, h.momentsAll random (moves ++ [move]) =
    h.momentsAll random moves ++ (h.playAll random moves).1.moments (h.playAll random moves).2 move
  traced : (h.playAll random moves).1.Traced (h.playAll random moves).2

/-- Whatever a party does, its ephemeral pairs are fresh. -/
theorem freshEphemerals (h : Handshake K T) (random : RandomStream) (moves : List Move) :
    h.FreshEphemerals random moves := by
  have hstart : h.Paced h.keys.ownEphemeral random 0 random := ⟨random.skip_zero, rfl⟩
  obtain ⟨hall, hend⟩ := hstart.playAll moves
  rw [Nat.zero_add] at hend
  exact
    { moments := Moment.fresh_of_allPaced hall
      pairs_eq := by
        have hdrawn := K.drawPairs_skip random ((h.momentsAll random moves).countP Moment.draws) 0
        rw [random.skip_zero] at hdrawn
        rw [Moment.made_of_allPaced hall, hdrawn]
      stream_eq := hend.random_eq
      role_eq := h.role_playAll random moves
      momentsAll_concat := h.momentsAll_concat random moves
      traced := traced _ _ }

end Handshake

end Runs

end DuplexHandshake
