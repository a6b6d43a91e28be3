import DuplexHandshake.Proofs.Handshake.Slices

/-!
# What a step needs

A party's part in a token needs some places of its keyring filled, and may fill another. So a walk over
the tokens of a step tells beforehand whether a key will be missing; it looks at which places are filled
and never at what is in them. A place that a writer misses is none that writing fills, so that it is of
no use to try again.
-/

namespace DuplexHandshake

/-- A place for a key. -/
inductive Place where
  | own (kind : KeyKind)
  | peer (kind : KeyKind)
  deriving DecidableEq

/-- A party's part in a message. -/
inductive Duty where
  | write
  | read
  deriving DecidableEq

namespace Token

/-- The places that a party's part in a token needs filled. -/
def needs (role : Role) : Duty → Token → List Place
  | .write, .send .static => [.own .static]
  | _, .send _ => []
  | _, .mix initiator responder =>
    [.own (role.select initiator responder), .peer (role.select responder initiator)]

/-- The places that it fills. -/
def fills : Duty → Token → List Place
  | .write, .send .ephemeral => [.own .ephemeral]
  | .write, .send .static => []
  | .read, .send kind => [.peer kind]
  | _, .mix .. => []

end Token

/-- A token lacks a place on a walk that starts with some places filled and has come past the tokens
before it. -/
def LackingAt (role : Role) (duty : Duty) (filled : List Place) (before : List Token) (t : Token) :
    Prop :=
  ¬ t.needs role duty ⊆ filled ++ before.flatMap (Token.fills duty)

instance (role : Role) (duty : Duty) (filled : List Place) (before : List Token) (t : Token) :
    Decidable (LackingAt role duty filled before t) :=
  inferInstanceAs (Decidable (¬ t.needs role duty ⊆ filled ++ before.flatMap (Token.fills duty)))

/-- Some token of a step lacks a place. -/
def Lacking (role : Role) (duty : Duty) (filled : List Place) (ts : List Token) : Prop :=
  ∃ before t after, ts = before ++ t :: after ∧ LackingAt role duty filled before t

theorem lackingAt_cons {role : Role} {duty : Duty} {filled : List Place} {first t : Token}
    {before : List Token} :
    LackingAt role duty filled (first :: before) t ↔
      LackingAt role duty (filled ++ first.fills duty) before t := by
  rw [LackingAt, LackingAt, List.flatMap_cons, List.append_assoc]

theorem Lacking.cons {role : Role} {duty : Duty} {filled : List Place} {t : Token} {ts : List Token}
    (h : Lacking role duty (filled ++ t.fills duty) ts) : Lacking role duty filled (t :: ts) := by
  obtain ⟨before, later, after, rfl, hlacking⟩ := h
  exact ⟨t :: before, later, after, rfl, lackingAt_cons.2 hlacking⟩

theorem lacking_of_needs {role : Role} {duty : Duty} {filled : List Place} {t : Token}
    (h : ¬ t.needs role duty ⊆ filled) (ts : List Token) : Lacking role duty filled (t :: ts) := by
  refine ⟨[], t, ts, rfl, ?_⟩
  rw [LackingAt, List.flatMap_nil, List.append_nil]
  exact h

/-! ## Filled places -/

namespace Keyring

def has (k : Keyring) : Place → Bool
  | .own kind => (k.own kind).isSome
  | .peer kind => (k.peer kind).isSome

/-- The places of a keyring that are filled. -/
def places (k : Keyring) : List Place :=
  [.own .ephemeral, .own .static, .peer .ephemeral, .peer .static].filter k.has

/-- These places are filled, and no others. -/
def Shows (k : Keyring) (filled : List Place) : Prop :=
  ∀ place, place ∈ filled ↔ k.has place

/-- The keys in hand for a token give a secret of zeros. -/
def weak (K : KeyAgreement) (role : Role) (k : Keyring) : Token → Bool
  | .send _ => false
  | .mix initiator responder =>
    match k.own (role.select initiator responder), k.peer (role.select responder initiator) with
    | some pair, some key => K.combine pair.secret key = Vector.replicate keyLength 0
    | _, _ => false

/-- The keyring of a writer after a token, and the randomness that is left. -/
def draw (K : KeyAgreement) (k : Keyring) (random : RandomStream) : Token → Keyring × RandomStream
  | .send .ephemeral =>
    ({ k with ownEphemeral := some (K.keyPair random.drawKey.1) }, random.drawKey.2)
  | _ => (k, random)

variable {K : KeyAgreement} {role : Role} {k : Keyring} {filled : List Place}

theorem shows_places (k : Keyring) : k.Shows k.places := by
  intro place
  rw [places, List.mem_filter, and_iff_right_iff_imp]
  intro _
  cases place with
  | own kind => cases kind <;> decide
  | peer kind => cases kind <;> decide

theorem Shows.lacks_iff (hfilled : k.Shows filled) {duty : Duty} {initiator responder : KeyKind} :
    k.Lacks role initiator responder ↔
      ¬ (Token.mix initiator responder).needs role duty ⊆ filled := by
  have hown := hfilled (.own (role.select initiator responder))
  have hpeer := hfilled (.peer (role.select responder initiator))
  have hneeds : (Token.mix initiator responder).needs role duty =
      [.own (role.select initiator responder), .peer (role.select responder initiator)] := by
    cases duty <;> rfl
  rw [hneeds, List.cons_subset, List.cons_subset, hown, hpeer, Lacks, has, has]
  simp only [List.nil_subset, and_true, Option.isSome_iff_ne_none, not_and_or, ne_eq, not_not]

theorem lacks_of_sharedSecret {initiator responder : KeyKind}
    (h : k.sharedSecret K role initiator responder = .error .missingKeyMaterial) :
    k.Lacks role initiator responder := by
  by_cases hlacks : k.Lacks role initiator responder
  · exact hlacks
  · obtain ⟨pair, key, hown, hpeer⟩ := exists_of_not_lacks hlacks
    rw [sharedSecret_of_some hown hpeer, KeyAgreement.sharedSecret] at h
    split at h <;> cases h

/-- A bad key is one that gives zeros with the pair that is at hand. -/
theorem sharedSecret_eq_badKey_iff {initiator responder : KeyKind} :
    k.sharedSecret K role initiator responder = .error .badKey ↔
      k.weak K role (.mix initiator responder) := by
  cases hown : k.own (role.select initiator responder) with
  | none => simp [sharedSecret, weak, hown]
  | some pair =>
    cases hpeer : k.peer (role.select responder initiator) with
    | none => simp [sharedSecret, weak, hown, hpeer]
    | some key => simp [sharedSecret, weak, hown, hpeer, KeyAgreement.sharedSecret]

/-- One more place is filled. -/
theorem Shows.fill {later : Keyring} {place : Place} (hfilled : k.Shows filled)
    (h : ∀ other, later.has other ↔ k.has other ∨ other = place) :
    later.Shows (filled ++ [place]) := by
  intro other
  rw [List.mem_append, List.mem_singleton, hfilled other, h other]

theorem has_ownEphemeral (k : Keyring) (pair : KeyPair) (other : Place) :
    { k with ownEphemeral := some pair }.has other ↔ k.has other ∨ other = .own .ephemeral := by
  cases other with
  | own kind => cases kind <;> simp [has, own]
  | peer kind => cases kind <;> simp [has, peer]

theorem has_peerEphemeral (k : Keyring) (key : PublicKey) (other : Place) :
    { k with peerEphemeral := some key }.has other ↔ k.has other ∨ other = .peer .ephemeral := by
  cases other with
  | own kind => cases kind <;> simp [has, own]
  | peer kind => cases kind <;> simp [has, peer]

theorem has_peerStatic (k : Keyring) (key : PublicKey) (other : Place) :
    { k with peerStatic := some key }.has other ↔ k.has other ∨ other = .peer .static := by
  cases other with
  | own kind => cases kind <;> simp [has, own]
  | peer kind => cases kind <;> simp [has, peer]

/-- What a writer's token draws fills the place that it is meant to fill. -/
theorem Shows.draw (hfilled : k.Shows filled) (random : RandomStream) (t : Token) :
    (k.draw K random t).1.Shows (filled ++ t.fills .write) := by
  cases t with
  | send kind =>
    cases kind with
    | ephemeral => exact hfilled.fill (k.has_ownEphemeral _)
    | static => simpa [Keyring.draw, Token.fills] using hfilled
  | mix initiator responder => simpa [Keyring.draw, Token.fills] using hfilled

end Keyring

/-- The reason why some work stopped, if it did. -/
def Interruption.error? {σ : Type} : Except (Interruption σ) σ → Option HandshakeError
  | .ok _ => none
  | .error stopped => some stopped.error

variable {K : KeyAgreement} {T : Type} [Transcript T] {role : Role} {filled : List Place}

/-! ## Writing -/

/-- The first fault on a walk over tokens to be written: a place that is not filled, or else a secret of
zeros. -/
def fault (K : KeyAgreement) (role : Role) :
    List Place → Keyring → RandomStream → List Token → Option HandshakeError
  | _, _, _, [] => none
  | filled, keys, random, t :: ts =>
    if t.needs role .write ⊆ filled then
      if keys.weak K role t then some .badKey
      else
        let (keys, random) := keys.draw K random t
        fault K role (filled ++ t.fills .write) keys random ts
    else some .missingKeyMaterial

theorem error_of_fault {keys : Keyring} {random : RandomStream} {ts : List Token}
    {e : HandshakeError} (h : fault K role filled keys random ts = some e) :
    e = .missingKeyMaterial ∨ e = .badKey := by
  induction ts generalizing filled keys random with
  | nil => cases h
  | cons t ts ih =>
    unfold fault at h
    split at h
    · split at h
      · exact .inr (Option.some.inj h).symm
      · exact ih h
    · exact .inl (Option.some.inj h).symm

theorem lacking_of_fault {keys : Keyring} {random : RandomStream} {ts : List Token}
    (h : fault K role filled keys random ts = some .missingKeyMaterial) :
    Lacking role .write filled ts := by
  induction ts generalizing filled keys random with
  | nil => cases h
  | cons t ts ih =>
    unfold fault at h
    split at h
    · split at h
      · cases h
      · exact (ih h).cons
    · next hneeds => exact lacking_of_needs hneeds ts

/-- A walk on which a place is lacking has a fault: this one, or a secret of zeros before it. -/
theorem fault_of_lacking (K : KeyAgreement) (keys : Keyring) (random : RandomStream) {ts : List Token}
    (h : Lacking role .write filled ts) : (fault K role filled keys random ts).isSome := by
  obtain ⟨before, t, after, rfl, hlacking⟩ := h
  induction before generalizing filled keys random with
  | nil =>
    have hneeds : ¬ t.needs role .write ⊆ filled := by simpa [LackingAt] using hlacking
    rw [List.nil_append, fault, if_neg hneeds]
    rfl
  | cons first before ih =>
    rw [List.cons_append, fault]
    split
    · split
      · rfl
      · exact ih _ _ (lackingAt_cons.1 hlacking)
    · rfl

namespace Writer

variable {w : Writer T} {t : Token}

theorem token_of_lacking (hfilled : w.keys.Shows filled) (h : ¬ t.needs role .write ⊆ filled) :
    w.token K role t = w.stop .missingKeyMaterial := by
  cases t with
  | send kind =>
    cases kind with
    | ephemeral => exact absurd (List.nil_subset filled) h
    | static =>
      have hown := hfilled (.own .static)
      have hnone : w.keys.ownStatic = none := by
        simpa [Token.needs, hown, Keyring.has, Keyring.own] using h
      unfold token
      simp only [hnone]
  | mix initiator responder =>
    unfold token
    simp only [Keyring.sharedSecret_of_lacks (hfilled.lacks_iff.2 h)]

theorem token_of_weak (h : w.keys.weak K role t) : w.token K role t = w.stop .badKey := by
  cases t with
  | send kind => cases h
  | mix initiator responder =>
    unfold token
    simp only [Keyring.sharedSecret_eq_badKey_iff.2 h]

/-- With its places filled and no secret of zeros a token is written. -/
theorem token_of_sound (hfilled : w.keys.Shows filled) (hneeds : t.needs role .write ⊆ filled)
    (hsound : ¬ w.keys.weak K role t) :
    ∃ next, w.token K role t = .ok next ∧ (next.keys, next.random) = w.keys.draw K w.random t ∧
      next.keys.Shows (filled ++ t.fills .write) := by
  -- The keys that the writer has afterwards are those that the walk has.
  suffices hone : ∃ next, w.token K role t = .ok next ∧
      (next.keys, next.random) = w.keys.draw K w.random t by
    obtain ⟨next, hnext, hdraw⟩ := hone
    have hshows := hfilled.draw (K := K) w.random t
    rw [← hdraw] at hshows
    exact ⟨next, hnext, hdraw, hshows⟩
  cases t with
  | send kind =>
    cases kind with
    | ephemeral => exact ⟨_, rfl, rfl⟩
    | static =>
      have hown := (hfilled (.own .static)).1 (hneeds List.mem_cons_self)
      obtain ⟨pair, hpair⟩ := Option.isSome_iff_exists.1 hown
      have hstatic : w.keys.ownStatic = some pair := hpair
      unfold token
      simp only [hstatic]
      exact ⟨_, rfl, rfl⟩
  | mix initiator responder =>
    have hkeys : ¬ w.keys.Lacks role initiator responder := by
      rw [hfilled.lacks_iff]
      exact not_not.2 hneeds
    obtain ⟨pair, key, hown, hpeer⟩ := Keyring.exists_of_not_lacks hkeys
    have hnonzero : K.combine pair.secret key ≠ Vector.replicate keyLength 0 := by
      simpa [Keyring.weak, hown, hpeer] using hsound
    have hsecret : w.keys.sharedSecret K role initiator responder =
        .ok ⟨K.combine pair.secret key⟩ := by
      rw [Keyring.sharedSecret_of_some hown hpeer, KeyAgreement.sharedSecret]
      exact if_neg hnonzero
    exact ⟨_, token_mix hsecret, rfl⟩

/-- Tokens stop for the first fault on the walk over them. -/
theorem tokens_error? (K : KeyAgreement) (role : Role) (w : Writer T) (hfilled : w.keys.Shows filled)
    (ts : List Token) :
    Interruption.error? (w.tokens K role ts) = fault K role filled w.keys w.random ts := by
  induction ts generalizing w filled with
  | nil => rfl
  | cons t ts ih =>
    rw [tokens_cons, fault]
    by_cases hneeds : t.needs role .write ⊆ filled
    · rw [if_pos hneeds]
      by_cases hweak : w.keys.weak K role t
      · rw [if_pos hweak, token_of_weak hweak]
        rfl
      · obtain ⟨next, hnext, hdraw, hshows⟩ := token_of_sound hfilled hneeds hweak
        rw [if_neg hweak, hnext, ← hdraw]
        exact ih next hshows
    · rw [if_neg hneeds, token_of_lacking hfilled hneeds]
      rfl

/-- Tokens of which one needs more than some places stop before they fill more than these. -/
theorem tokens_of_lacking (K : KeyAgreement) (w : Writer T) {before : List Token} (after : List Token)
    (hkeys : w.keys.places ⊆ filled) (hbefore : before.flatMap (Token.fills .write) ⊆ filled)
    (hneeds : ¬ t.needs role .write ⊆ filled) :
    ∃ stopped, w.tokens K role (before ++ t :: after) = .error stopped ∧
      stopped.state.keys.places ⊆ filled := by
  induction before generalizing w with
  | nil =>
    have hlacking : ¬ t.needs role .write ⊆ w.keys.places :=
      fun h => hneeds (List.Subset.trans h hkeys)
    rw [List.nil_append, tokens_cons, token_of_lacking w.keys.shows_places hlacking]
    exact ⟨_, rfl, hkeys⟩
  | cons first before ih =>
    rw [List.flatMap_cons, List.append_subset] at hbefore
    rw [List.cons_append, tokens_cons]
    by_cases hfirst : first.needs role .write ⊆ w.keys.places
    · by_cases hweak : w.keys.weak K role first
      · rw [token_of_weak hweak]
        exact ⟨_, rfl, hkeys⟩
      · obtain ⟨next, hnext, _, hshows⟩ := token_of_sound w.keys.shows_places hfirst hweak
        -- The token has filled no other places than those that it is meant to fill.
        have hlater : next.keys.places ⊆ filled := by
          intro place hplace
          have hhas := (hshows place).2 ((next.keys.shows_places place).1 hplace)
          exact (List.mem_append.1 hhas).elim (fun h => hkeys h) (fun h => hbefore.1 h)
        rw [hnext]
        exact ih next hlater hbefore.2
    · rw [token_of_lacking w.keys.shows_places hfirst]
      exact ⟨_, rfl, hkeys⟩

end Writer

/-! ## Reading -/

namespace Reader

variable {tagLength : Nat} {r : Reader T} {t : Token}

theorem token_of_lacking (hfilled : r.keys.Shows filled) (h : ¬ t.needs role .read ⊆ filled) :
    r.token K role tagLength t = r.stop .missingKeyMaterial [] := by
  cases t with
  | send kind => exact absurd (List.nil_subset filled) h
  | mix initiator responder =>
    unfold token
    simp only [Keyring.sharedSecret_of_lacks (hfilled.lacks_iff.2 h)]

/-- If a transcript refuses for reasons of its own, a token that fails for want of a key lacks one. -/
theorem needs_of_missing (honest : ¬ RefusalOf T .missingKeyMaterial) (hfilled : r.keys.Shows filled)
    {stopped : Interruption (Reader T)} (h : r.token K role tagLength t = .error stopped)
    (hmissing : stopped.error = .missingKeyMaterial) : ¬ t.needs role .read ⊆ filled := by
  have hfails := fails_of_token h
  generalize stopped.events = events at hfails
  rw [hmissing] at hfails
  cases hfails with
  | ephemeral _ hkey | static _ _ hkey => cases PublicKey.ofBytes_error hkey
  | refused hopen => exact absurd ⟨_, _, _, hopen⟩ honest
  | secret hsecret => exact hfilled.lacks_iff.1 (Keyring.lacks_of_sharedSecret hsecret)

/-- A token that is read fills the places that it is meant to fill. -/
theorem Takes.shows {next : Reader T} {segment : Bytes} (h : r.Takes K role tagLength t segment next)
    (hfilled : r.keys.Shows filled) : next.keys.Shows (filled ++ t.fills .read) := by
  cases h with
  | ephemeral key rest => exact hfilled.fill (r.keys.has_peerEphemeral key)
  | static key _ rest => exact hfilled.fill (r.keys.has_peerStatic key)
  | mix initiator responder secret => simpa [Token.fills] using hfilled

theorem lacking_of_tokens (honest : ¬ RefusalOf T .missingKeyMaterial) (hfilled : r.keys.Shows filled)
    {ts : List Token} {stopped : Interruption (Reader T)}
    (h : r.tokens K role tagLength ts = .error stopped)
    (hmissing : stopped.error = .missingKeyMaterial) : Lacking role .read filled ts := by
  induction ts generalizing r filled with
  | nil => cases h
  | cons t ts ih =>
    rw [tokens_cons] at h
    cases hone : r.token K role tagLength t with
    | error early =>
      rw [hone] at h
      cases h
      exact lacking_of_needs (needs_of_missing honest hfilled hone hmissing) ts
    | ok next =>
      rw [hone] at h
      obtain ⟨segment, htakes⟩ := token_eq_ok_iff.1 hone
      exact (ih (htakes.shows hfilled) h).cons

/-- Tokens of which one lacks a place stop there, unless one before it stops already. -/
theorem tokens_of_lackingAt (K : KeyAgreement) (tagLength : Nat) (r : Reader T)
    (hfilled : r.keys.Shows filled) {before : List Token} (after : List Token)
    (h : LackingAt role .read filled before t) :
    ∃ stopped, r.tokens K role tagLength (before ++ t :: after) = .error stopped ∧
      (stopped.error = .missingKeyMaterial ∨
        r.tokens K role tagLength before = .error stopped) := by
  induction before generalizing r filled with
  | nil =>
    have hneeds : ¬ t.needs role .read ⊆ filled := by simpa [LackingAt] using h
    rw [List.nil_append, tokens_cons, token_of_lacking hfilled hneeds]
    exact ⟨_, rfl, .inl rfl⟩
  | cons first before ih =>
    rw [List.cons_append, tokens_cons, tokens_cons]
    cases hone : r.token K role tagLength first with
    | error early => exact ⟨early, rfl, .inr rfl⟩
    | ok next =>
      obtain ⟨segment, htakes⟩ := token_eq_ok_iff.1 hone
      exact ih next (htakes.shows hfilled) (lackingAt_cons.1 h)

end Reader

/-! ## Messages -/

namespace Handshake

variable {h : Handshake K T} {step : Step} {t : T}

/-- A write fails for the first fault on the walk over its tokens, and for no other reason. -/
theorem write_error_iff_fault (hstep : h.step? = some step) (ht : h.transcript = some t)
    (payload buffer : Bytes) (random : RandomStream) (e : HandshakeError) :
    (h.write payload buffer random).1.result = .error e ↔
      fault K h.role h.keys.places h.keys random step.tokens = some e := by
  have hfault := Writer.tokens_error? K h.role
    { transcript := t, keys := h.keys, random, message := [] } h.keys.shows_places step.tokens
  rw [← hfault]
  cases hw : Writer.tokens K h.role { transcript := t, keys := h.keys, random, message := [] }
      step.tokens with
  | error stopped =>
    rw [write_of_stopped hstep ht hw]
    simp [abandon, Interruption.error?]
  | ok w =>
    rw [write_of_tokens hstep ht hw, finishStep_eq]
    split <;> simp [Interruption.error?]

theorem lacking_of_read (honest : ¬ RefusalOf T .missingKeyMaterial) (hstep : h.step? = some step)
    {message buffer : Bytes} (hmissing : (h.read message buffer).result = .error .missingKeyMaterial) :
    Lacking h.role .read h.keys.places step.tokens := by
  cases unread_of_error hmissing with
  | ended he => cases he
  | short _ he => cases he
  | stopped step' t stopped he hstep' _ _ hr =>
    cases hstep.symm.trans hstep'
    exact Reader.lacking_of_tokens honest h.keys.shows_places hr he
  | refused hrefusal => exact absurd hrefusal honest

/-- A read of a message that is long enough comes to the token that lacks a place, unless one before it
is not authentic or makes a bad key. -/
theorem read_of_lackingAt (honest : ∀ e, RefusalOf T e → e = .authenticationFailure)
    (hstep : h.step? = some step) (ht : h.transcript = some t) {before after : List Token}
    {token : Token} (hsplit : step.tokens = before ++ token :: after)
    (hlacking : LackingAt h.role .read h.keys.places before token) {message : Bytes}
    (hlong : step.tokenLength h.tagLength ≤ message.length)
    (hbefore : ∀ stopped,
      Reader.tokens K h.role h.tagLength { transcript := t, keys := h.keys, rest := message }
          before = .error stopped →
        stopped.error ≠ .authenticationFailure ∧ stopped.error ≠ .badKey) (buffer : Bytes) :
    (h.read message buffer).result = .error .missingKeyMaterial := by
  obtain ⟨stopped, hr, hreason⟩ := Reader.tokens_of_lackingAt K h.tagLength
    { transcript := t, keys := h.keys, rest := message } h.keys.shows_places after hlacking
  rw [← hsplit] at hr
  rw [read_of_stopped hstep ht hlong hr]
  obtain hmissing | hearly := hreason
  · rw [hmissing]
  · obtain ⟨hauthentic, hkey⟩ := hbefore stopped hearly
    have hmalformed : stopped.error ≠ .malformedMessage := by
      rw [Step.tokenLength_eq_sum] at hlong
      have hnever : ¬ RefusalOf T .malformedMessage := by
        intro hrefusal
        cases honest _ hrefusal
      exact Reader.tokens_error_ne_malformed hnever hlong hr
    -- Of the errors that there are, only that of a missing key is left.
    obtain (he | he | he) | hrefusal := Reader.tokens_error hr
    · exact absurd he hmalformed
    · rw [he]
    · exact absurd he hkey
    · exact absurd (honest _ hrefusal) hauthentic

/-! ## Trying again -/

/-- A handshake whose next message cannot be written: the tokens before some token fill none but these
places, that token needs more, and no others are filled. -/
structure Stuck (h : Handshake K T) (filled : List Place) : Prop where
  lacking : ∃ step before t after, h.step? = some step ∧ step.tokens = before ++ t :: after ∧
    before.flatMap (Token.fills .write) ⊆ filled ∧ ¬ t.needs h.role .write ⊆ filled
  keys : h.keys.places ⊆ filled

omit [Transcript T] in
theorem stuck_of_lacking (hstep : h.step? = some step)
    (hlack : Lacking h.role .write h.keys.places step.tokens) : ∃ filled, h.Stuck filled := by
  obtain ⟨before, token, after, hsplit, hlacking⟩ := hlack
  exact ⟨h.keys.places ++ before.flatMap (Token.fills .write),
    ⟨step, before, token, after, hstep, hsplit, List.subset_append_right _ _, hlacking⟩,
    List.subset_append_left _ _⟩

/-- A write from there fails, and leaves the handshake no better off. -/
theorem Stuck.write (hstuck : h.Stuck filled) (payload buffer : Bytes) (random : RandomStream) :
    (∃ e, (h.write payload buffer random).1.result = .error e) ∧
      (h.write payload buffer random).1.state.Stuck filled ∧
      (h.write payload buffer random).1.state.done = h.done := by
  obtain ⟨⟨step, before, token, after, hstep, hsplit, hbefore, hneeds⟩, hkeys⟩ := hstuck
  cases ht : h.transcript with
  | none =>
    have hrefused : (h.write payload buffer random).1 = h.refuse buffer .alreadyComplete := by
      unfold Handshake.write
      rw [hstep, ht]
    rw [hrefused]
    exact ⟨⟨_, rfl⟩, ⟨⟨step, before, token, after, hstep, hsplit, hbefore, hneeds⟩, hkeys⟩, rfl⟩
  | some t =>
    obtain ⟨stopped, hw, hlater⟩ := Writer.tokens_of_lacking K
      { transcript := t, keys := h.keys, random, message := [] } after hkeys hbefore hneeds
    rw [← hsplit] at hw
    rw [write_of_stopped hstep ht hw]
    exact ⟨⟨_, rfl⟩, ⟨⟨step, before, token, after, hstep, hsplit, hbefore, hneeds⟩, hlater⟩, rfl⟩

theorem Stuck.after (hstuck : h.Stuck filled) {calls : List Call}
    (hwrites : ∀ call ∈ calls, ∃ payload buffer random, call = .write payload buffer random) :
    (h.after calls).Stuck filled ∧ (h.after calls).done = h.done := by
  induction calls generalizing h with
  | nil => exact ⟨hstuck, rfl⟩
  | cons call calls ih =>
    obtain ⟨payload, buffer, random, rfl⟩ := hwrites call List.mem_cons_self
    obtain ⟨_, hnext, hdone⟩ := hstuck.write payload buffer random
    have hlater := ih hnext (fun call hcall => hwrites call (List.mem_cons_of_mem _ hcall))
    rw [after_cons]
    exact ⟨hlater.1, hlater.2.trans hdone⟩

/-- Which keys are missing for the next step is decided by which places of the keyring are filled. -/
structure DecidedByPlaces (h : Handshake K T) (step : Step) : Prop where
  /-- A write fails if and only if there is a fault on the walk over the tokens, with the error of the
  first one. -/
  write_error_iff : ∀ payload buffer random e,
    (h.write payload buffer random).1.result = .error e ↔
      fault K h.role h.keys.places h.keys random step.tokens = some e
  write_missing : ∀ payload buffer random,
    (h.write payload buffer random).1.result = .error .missingKeyMaterial →
      Lacking h.role .write h.keys.places step.tokens
  write_lacking : Lacking h.role .write h.keys.places step.tokens →
    ∀ payload buffer random,
      (h.write payload buffer random).1.result = .error .missingKeyMaterial ∨
        (h.write payload buffer random).1.result = .error .badKey
  /-- With a transcript whose own refusals are of another kind, a read misses a key only if a token
  lacks a place. -/
  read_missing : ¬ RefusalOf T .missingKeyMaterial → ∀ message buffer,
    (h.read message buffer).result = .error .missingKeyMaterial →
      Lacking h.role .read h.keys.places step.tokens
  /-- And a read that comes so far fails at a token that lacks a place. -/
  read_lacking : (∀ e, RefusalOf T e → e = .authenticationFailure) →
    ∀ t before token after message buffer, h.transcript = some t →
      step.tokens = before ++ token :: after → LackingAt h.role .read h.keys.places before token →
        step.tokenLength h.tagLength ≤ message.length →
          (∀ stopped,
            Reader.tokens K h.role h.tagLength { transcript := t, keys := h.keys, rest := message }
                before = .error stopped →
              stopped.error ≠ .authenticationFailure ∧ stopped.error ≠ .badKey) →
            (h.read message buffer).result = .error .missingKeyMaterial
  /-- Once a key was missing for a write, no number of further writes, whatever their arguments, makes
  one succeed or takes the step. -/
  write_again : ∀ payload buffer random,
    (h.write payload buffer random).1.result = .error .missingKeyMaterial →
      ∀ calls,
        (∀ call ∈ calls, ∃ payload buffer random, call = Call.write payload buffer random) →
          (((h.write payload buffer random).1.state.after calls).done = h.done ∧
            ∀ payload' buffer' random', ∃ e,
              (((h.write payload buffer random).1.state.after calls).write payload' buffer'
                random').1.result = .error e)

/-- After any calls, in turn or out of it and whatever came of them, it is the filled places that decide
which keys are missing. -/
theorem decidedByPlaces {registry : Registry} {name : String} {role : Role} {prologue : Bytes}
    {keys : Keyring} {fresh : Handshake K T} {events : List Event}
    (started : start registry name role prologue keys = .ok (fresh, events)) (calls : List Call)
    (hstep : (fresh.after calls).step? = some step) : (fresh.after calls).DecidedByPlaces step := by
  have lasting := ((lasting_of_start started).after calls).1
  generalize fresh.after calls = h at hstep lasting
  obtain ⟨t, ht⟩ := Option.isSome_iff_exists.1
    (lasting.transcript_iff.2 (done_lt_of_step? hstep))
  have hfault := write_error_iff_fault hstep ht
  have hlacking : ∀ {payload buffer random},
      (h.write payload buffer random).1.result = .error .missingKeyMaterial →
        Lacking h.role .write h.keys.places step.tokens :=
    fun herror => lacking_of_fault ((hfault _ _ _ _).1 herror)
  refine
    { write_error_iff := hfault
      write_missing := fun _ _ _ => hlacking
      write_lacking := ?_
      read_missing := fun honest _ _ => lacking_of_read honest hstep
      read_lacking := ?_
      write_again := ?_ }
  · intro hlacks payload buffer random
    obtain ⟨e, he⟩ := Option.isSome_iff_exists.1 (fault_of_lacking K h.keys random hlacks)
    have herror := (hfault payload buffer random e).2 he
    obtain rfl | rfl := error_of_fault he
    · exact .inl herror
    · exact .inr herror
  · intro honest t' before token after message buffer ht' hsplit hlacks hlong hbefore
    exact read_of_lackingAt honest hstep ht' hsplit hlacks hlong hbefore buffer
  · intro payload buffer random herror calls hwrites
    obtain ⟨filled, hstuck⟩ := stuck_of_lacking hstep (hlacking herror)
    obtain ⟨_, hnext, hdone⟩ := hstuck.write payload buffer random
    obtain ⟨hlater, hdone'⟩ := hnext.after hwrites
    refine ⟨hdone'.trans hdone, ?_⟩
    intro payload' buffer' random'
    exact (hlater.write payload' buffer' random').1

/-- In mutual authentication, a responder without a static key never comes to answer; and were it to take
the answer for a message to itself, it would miss the ephemeral key that it has not drawn. -/
theorem decidedByPlaces_answer :
    let answer : Step := ⟨.toInitiator,
      [.send .ephemeral, .mix .ephemeral .ephemeral, .send .static, .mix .ephemeral .static]⟩
    let calls : List Call :=
      [.read (List.replicate 32 7 ++ List.replicate 16 Recorder.tagByte) []]
    ∃ (h : Handshake x25519 (Recorder {})) (events : List Event),
      start .standard "XX" .responder [] {} = .ok (h, events) ∧
        (h.after calls).step? = some answer ∧ (h.after calls).DecidedByPlaces answer ∧
        (∀ payload buffer random, ¬ ((h.after calls).write payload buffer random).1.result.isOk) ∧
        ((h.after calls).read (List.replicate 80 0) []).result = .error .missingKeyMaterial := by
  intro answer calls
  -- By then the ephemeral key of the peer is all that there is.
  obtain ⟨h, events, t, r, started, hstep, hrole, hplaces, htag, ht, hr⟩ :
      ∃ (h : Handshake x25519 (Recorder {})) (events : List Event) (t : Recorder {})
        (r : Reader (Recorder {})), start .standard "XX" .responder [] {} = .ok (h, events) ∧
        (h.after calls).step? = some answer ∧ (h.after calls).role = .responder ∧
        (h.after calls).keys.places = [.peer .ephemeral] ∧ (h.after calls).tagLength = 16 ∧
        (h.after calls).transcript = some t ∧
        Reader.tokens x25519 (h.after calls).role (h.after calls).tagLength
          { transcript := t, keys := (h.after calls).keys, rest := List.replicate 80 0 }
          [.send .ephemeral] = .ok r :=
    ⟨_, _, _, _, rfl, rfl, rfl, rfl, rfl, rfl, rfl⟩
  have hdecided := decidedByPlaces started calls hstep
  refine ⟨h, events, started, hstep, hdecided, ?_, ?_⟩
  · intro payload buffer random
    have hlacking : Lacking (h.after calls).role .write (h.after calls).keys.places answer.tokens := by
      rw [hrole, hplaces]
      exact ⟨[.send .ephemeral, .mix .ephemeral .ephemeral], .send .static, [.mix .ephemeral .static],
        rfl, by decide⟩
    obtain herror | herror := hdecided.write_lacking hlacking payload buffer random
    · rw [herror]
      decide
    · rw [herror]
      decide
  · have honest : ∀ e, RefusalOf (Recorder {}) e → e = .authenticationFailure := by
      rintro e ⟨recorder, segment, associated, herror⟩
      exact Recorder.error_of_decrypt herror
    have hlacking : LackingAt (h.after calls).role .read (h.after calls).keys.places
        [.send .ephemeral] (.mix .ephemeral .ephemeral) := by
      rw [hrole, hplaces]
      decide
    apply hdecided.read_lacking honest t _ _ [.send .static, .mix .ephemeral .static] _ _ ht rfl
      hlacking
    · rw [htag]
      decide
    · intro stopped hstopped
      rw [hr] at hstopped
      cases hstopped

end Handshake

end DuplexHandshake
