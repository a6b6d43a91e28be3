import DuplexHandshake.Key.Ring

/-!
# Keys of two parties

Two keyrings fit each other if every pair on them is sound and no party takes a wrong key for one of
the other's. Then a secret that one party shares with the other is found by both, unless the other
lacks a key for it.
-/

namespace DuplexHandshake

/-- Either of two parties gets from the other's public key what the other gets from its own, be it a
secret or a refusal. -/
def KeyAgreement.Commutes (K : KeyAgreement) : Prop :=
  ∀ a b : SecretKey,
    K.sharedSecret (K.keyPair a) (K.publicKey b) = K.sharedSecret (K.keyPair b) (K.publicKey a)

/-- An agreement cut down to two parties: nobody else shares a secret with anybody. -/
def KeyAgreement.between (K : KeyAgreement) (a b : SecretKey) : KeyAgreement where
  publicKey := K.publicKey
  combine secret peer :=
    if K.publicKey secret = K.publicKey a ∧ peer = K.publicKey b ∨
        K.publicKey secret = K.publicKey b ∧ peer = K.publicKey a then
      K.combine a (K.publicKey b)
    else Vector.replicate keyLength 0

theorem KeyAgreement.between_commutes (K : KeyAgreement) (a b : SecretKey) :
    (K.between a b).Commutes := by
  intro x y
  have hswap : (K.between a b).combine x (K.publicKey y) =
      (K.between a b).combine y (K.publicKey x) := by
    have hsame : (K.publicKey x = K.publicKey a ∧ K.publicKey y = K.publicKey b ∨
          K.publicKey x = K.publicKey b ∧ K.publicKey y = K.publicKey a) ↔
        (K.publicKey y = K.publicKey a ∧ K.publicKey x = K.publicKey b ∨
          K.publicKey y = K.publicKey b ∧ K.publicKey x = K.publicKey a) :=
      ⟨fun h => h.symm.imp And.symm And.symm, fun h => h.symm.imp And.symm And.symm⟩
    simp only [between, hsame]
  unfold sharedSecret
  rw [show (K.between a b).combine ((K.between a b).keyPair x).secret ((K.between a b).publicKey y) =
    (K.between a b).combine ((K.between a b).keyPair y).secret ((K.between a b).publicKey x) from
    hswap]

theorem KeyAgreement.between_combine_left (K : KeyAgreement) (a b : SecretKey) :
    (K.between a b).combine a (K.publicKey b) = K.combine a (K.publicKey b) :=
  if_pos (.inl ⟨rfl, rfl⟩)

theorem KeyAgreement.between_combine_right (K : KeyAgreement) (a b : SecretKey) :
    (K.between a b).combine b (K.publicKey a) = K.combine a (K.publicKey b) :=
  if_pos (.inr ⟨rfl, rfl⟩)

namespace Keyring

variable {K : KeyAgreement} {a b : Keyring}

/-- Every pair has the public key that belongs to its secret key. -/
def Sound (K : KeyAgreement) (k : Keyring) : Prop :=
  ∀ kind pair, k.own kind = some pair → pair = K.keyPair pair.secret

/-- Whatever the second party takes for a key of the first is that key. -/
def KnownBy (a b : Keyring) : Prop :=
  ∀ kind pair key, a.own kind = some pair → b.peer kind = some key → key = pair.publicKey

/-- There is no key for one side of a secret. -/
def Lacks (k : Keyring) (role : Role) (initiator responder : KeyKind) : Prop :=
  k.own (role.select initiator responder) = none ∨ k.peer (role.select responder initiator) = none

/-- The keys of a party that has a static pair of its own, knows the static key of another, and has no more. -/
def acquainted (K : KeyAgreement) (mine theirs : SecretKey) : Keyring where
  ownStatic := some (K.keyPair mine)
  peerStatic := some (K.publicKey theirs)

theorem sound_acquainted (K : KeyAgreement) (mine theirs : SecretKey) :
    (acquainted K mine theirs).Sound K := by
  rintro (_ | _) pair hown <;> cases hown
  rfl

theorem knownBy_acquainted (K : KeyAgreement) (mine theirs : SecretKey) :
    (acquainted K mine theirs).KnownBy (acquainted K theirs mine) := by
  rintro (_ | _) pair key hown hpeer <;> cases hown
  cases hpeer
  rfl

theorem not_lacks_acquainted (K : KeyAgreement) (mine theirs : SecretKey) (role : Role) :
    ¬ (acquainted K mine theirs).Lacks role .static .static := by
  rintro (hown | hpeer)
  · cases role <;> cases hown
  · cases role <;> cases hpeer

/-- Two keyrings that fit each other. -/
structure Partners (K : KeyAgreement) (a b : Keyring) : Prop where
  sound_left : a.Sound K
  sound_right : b.Sound K
  known_left : a.KnownBy b
  known_right : b.KnownBy a

theorem sharedSecret_of_some {k : Keyring} {role : Role} {initiator responder : KeyKind}
    {pair : KeyPair} {key : PublicKey} (hown : k.own (role.select initiator responder) = some pair)
    (hpeer : k.peer (role.select responder initiator) = some key) :
    k.sharedSecret K role initiator responder = K.sharedSecret pair key := by
  rw [sharedSecret, hown, hpeer]

theorem sharedSecret_of_lacks {k : Keyring} {role : Role} {initiator responder : KeyKind}
    (h : k.Lacks role initiator responder) :
    k.sharedSecret K role initiator responder = .error .missingKeyMaterial := by
  unfold sharedSecret
  rcases h with hown | hpeer
  · rw [hown]
  · rw [hpeer]
    cases k.own (role.select initiator responder) <;> rfl

theorem exists_of_not_lacks {k : Keyring} {role : Role} {initiator responder : KeyKind}
    (h : ¬ k.Lacks role initiator responder) :
    ∃ pair key, k.own (role.select initiator responder) = some pair ∧
      k.peer (role.select responder initiator) = some key := by
  unfold Lacks at h
  rw [not_or] at h
  rcases Option.ne_none_iff_exists'.1 h.1 with ⟨pair, hown⟩
  rcases Option.ne_none_iff_exists'.1 h.2 with ⟨key, hpeer⟩
  exact ⟨pair, key, hown, hpeer⟩

theorem exists_of_staticKey_self {k : Keyring} {role : Role} {key : PublicKey}
    (h : k.staticKey role role = .ok key) :
    ∃ pair, k.own .static = some pair ∧ pair.publicKey = key := by
  unfold staticKey at h
  rw [if_pos rfl] at h
  cases hown : k.ownStatic with
  | none =>
    rw [hown] at h
    cases h
  | some pair =>
    rw [hown] at h
    exact ⟨pair, hown, Except.ok.inj h⟩

theorem peer_of_staticKey {k : Keyring} {role owner : Role} {key : PublicKey} (hne : role ≠ owner)
    (h : k.staticKey role owner = .ok key) : k.peer .static = some key := by
  unfold staticKey at h
  rw [if_neg hne] at h
  cases hpeer : k.peerStatic with
  | none =>
    rw [hpeer] at h
    cases h
  | some known =>
    rw [hpeer] at h
    exact hpeer.trans (congrArg some (Except.ok.inj h))

/-- Two parties that know each other's static keys have keyrings that fit. -/
theorem partners_acquainted (K : KeyAgreement) (a b : SecretKey) :
    Partners K (acquainted K a b) (acquainted K b a) where
  sound_left := sound_acquainted K a b
  sound_right := sound_acquainted K b a
  known_left := knownBy_acquainted K a b
  known_right := knownBy_acquainted K b a

namespace Partners

theorem symm (h : Partners K a b) : Partners K b a :=
  ⟨h.sound_right, h.sound_left, h.known_right, h.known_left⟩

/-- The first party draws a new pair, and the second learns its public key. -/
theorem ephemeral (h : Partners K a b) (secret : SecretKey) :
    Partners K { a with ownEphemeral := some (K.keyPair secret) }
      { b with peerEphemeral := some (K.keyPair secret).publicKey } := by
  refine ⟨?_, ?_, ?_, ?_⟩
  · intro kind pair hown
    cases kind with
    | ephemeral =>
      cases hown
      rfl
    | static => exact h.sound_left .static pair hown
  · intro kind pair hown
    exact h.sound_right kind pair (by cases kind <;> exact hown)
  · intro kind pair key hown hpeer
    cases kind with
    | ephemeral =>
      cases hown
      cases hpeer
      rfl
    | static => exact h.known_left .static pair key hown hpeer
  · intro kind pair key hown hpeer
    exact h.known_right kind pair key (by cases kind <;> exact hown) (by cases kind <;> exact hpeer)

/-- The second party learns the static key of the first. -/
theorem static (h : Partners K a b) {pair : KeyPair} (hstatic : a.ownStatic = some pair) :
    Partners K a { b with peerStatic := some pair.publicKey } := by
  refine ⟨h.sound_left, ?_, ?_, ?_⟩
  · intro kind other hown
    exact h.sound_right kind other (by cases kind <;> exact hown)
  · intro kind other key hown hpeer
    cases kind with
    | ephemeral => exact h.known_left .ephemeral other key hown hpeer
    | static =>
      have hsame : other = pair := Option.some.inj (hown.symm.trans hstatic)
      cases hpeer
      rw [hsame]
  · intro kind other key hown hpeer
    exact h.known_right kind other key (by cases kind <;> exact hown) hpeer

/-- The second party finds the secret of the first, unless it lacks a key. -/
theorem sharedSecret (h : Partners K a b) (commutes : K.Commutes) {role : Role}
    {initiator responder : KeyKind} {secret : SharedSecret}
    (hshared : a.sharedSecret K role initiator responder = .ok secret)
    (hkeys : ¬ b.Lacks role.other initiator responder) :
    b.sharedSecret K role.other initiator responder = .ok secret := by
  have hleft : ¬ a.Lacks role initiator responder := by
    intro hlacks
    rw [sharedSecret_of_lacks hlacks] at hshared
    cases hshared
  rcases exists_of_not_lacks hleft with ⟨mine, theirs, hmine, htheirs⟩
  rcases exists_of_not_lacks hkeys with ⟨pair, key, hpair, hkey⟩
  have hsecret := sharedSecret_of_some (K := K) hmine htheirs
  rw [sharedSecret_of_some hpair hkey]
  rw [Role.select_other] at hpair hkey
  -- Both public keys in play are those of the pairs in play, and all four of the agreement's making.
  have hsoundMine : mine = K.keyPair mine.secret := h.sound_left _ mine hmine
  have hsoundPair : pair = K.keyPair pair.secret := h.sound_right _ pair hpair
  have hkeyMine : key = mine.publicKey := h.known_left _ mine key hmine hkey
  have htheirsPair : theirs = pair.publicKey := h.known_right _ pair theirs hpair htheirs
  calc K.sharedSecret pair key
      = K.sharedSecret (K.keyPair pair.secret) (K.publicKey mine.secret) := by
        rw [hkeyMine, hsoundMine, ← hsoundPair]
        rfl
    _ = K.sharedSecret (K.keyPair mine.secret) (K.publicKey pair.secret) := commutes _ _
    _ = K.sharedSecret mine theirs := by
        rw [htheirsPair, hsoundPair, ← hsoundMine]
        rfl
    _ = .ok secret := hsecret.symm.trans hshared

/-- Both parties mean the same key by the static key of a side, if they know it. -/
theorem staticKey_eq (h : Partners K a b) {role owner : Role} {mine theirs : PublicKey}
    (hmine : a.staticKey role owner = .ok mine)
    (htheirs : b.staticKey role.other owner = .ok theirs) : mine = theirs := by
  by_cases howner : role = owner
  · subst howner
    have hpair := exists_of_staticKey_self hmine
    have hkey := peer_of_staticKey (Role.other_ne role) htheirs
    rcases hpair with ⟨pair, hpair, hpublic⟩
    rw [← hpublic]
    exact (h.known_left .static pair theirs hpair hkey).symm
  · have hother : role.other = owner := Role.other_eq_of_ne howner
    subst hother
    have hpair := exists_of_staticKey_self htheirs
    have hkey := peer_of_staticKey howner hmine
    rcases hpair with ⟨pair, hpair, hpublic⟩
    rw [← hpublic]
    exact h.known_right .static pair mine hpair hkey

end Partners

end Keyring

end DuplexHandshake
