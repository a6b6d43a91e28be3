import DuplexHandshake.Handshake.Setup
import DuplexHandshake.Proofs.Handshake.Attempt
import DuplexHandshake.Proofs.Key.Partners
import DuplexHandshake.Proofs.Pattern.Registration
import DuplexHandshake.Transcript.Duplex
import Mathlib.Data.List.Induction

/-!
# How a handshake starts

There are two reasons for a handshake not to start: the registry has no pattern of the name, or a key that
both sides are assumed to know is not there. Otherwise it starts, and its transcript is told by the name, the
prologue and these keys. Neither a token of a pre-message nor the length of the tags is ever refused.
-/

namespace DuplexHandshake

open Strobe (Duplex)

theorem Role.exists_iff {P : Role → Prop} : (∃ r, P r) ↔ P .initiator ∨ P .responder := by
  constructor
  · rintro ⟨r, hr⟩
    cases r with
    | initiator => exact .inl hr
    | responder => exact .inr hr
  · rintro (h | h) <;> exact ⟨_, h⟩

namespace Pattern

/-- The keys of a side that the other side is assumed to know. -/
def pre (p : Pattern) (owner : Role) : List Token :=
  owner.select p.initiatorPre p.responderPre

theorem pre_static (p : Pattern) (owner : Role) : ∀ t ∈ p.pre owner, t = .send .static := by
  cases owner with
  | initiator => exact p.initiatorPre_static
  | responder => exact p.responderPre_static

end Pattern

namespace Keyring

/-- The static key of a side, from where a party of this role keeps it: its own pair if it is that side, and
the key of its peer if it is not. -/
def static? (k : Keyring) (role owner : Role) : Option PublicKey :=
  if role = owner then k.ownStatic.map KeyPair.publicKey else k.peerStatic

theorem staticKey_of_some {k : Keyring} {role owner : Role} {key : PublicKey}
    (h : k.static? role owner = some key) : k.staticKey role owner = .ok key := by
  unfold static? at h
  simp only [staticKey, h]

theorem staticKey_of_none {k : Keyring} {role owner : Role} (h : k.static? role owner = none) :
    k.staticKey role owner = .error .missingKeyMaterial := by
  unfold static? at h
  simp only [staticKey, h]

/-- A party has not got a key of a side that both are assumed to know. -/
def Unshared (k : Keyring) (p : Pattern) (role owner : Role) : Prop :=
  p.pre owner ≠ [] ∧ k.static? role owner = none

instance (k : Keyring) (p : Pattern) (role owner : Role) : Decidable (k.Unshared p role owner) :=
  inferInstanceAs (Decidable (_ ∧ _))

/-- A party that has a static pair and knows the static key of its peer has all keys that both can be assumed
to know. -/
theorem not_unshared_acquainted (K : KeyAgreement) (mine theirs : SecretKey) (p : Pattern)
    (role owner : Role) : ¬ (acquainted K mine theirs).Unshared p role owner := by
  rintro ⟨-, hkey⟩
  unfold static? acquainted at hkey
  split at hkey <;> cases hkey

/-- The static key of a side, once for every token of its pre-message. -/
def shared (k : Keyring) (p : Pattern) (role owner : Role) : List Bytes :=
  (p.pre owner).filterMap fun _ => (k.static? role owner).map PublicKey.toBytes

end Keyring

/-! ## Pieces of a setup -/

/-- Something that a setup is handed. -/
inductive Piece where
  | prologue (prologue : Bytes)
  | ownStatic (pair : KeyPair)
  | ownEphemeral (pair : KeyPair)
  | peerStatic (key : PublicKey)
  | peerEphemeral (key : PublicKey)

namespace Setup

def take (s : Setup) : Piece → Setup
  | .prologue prologue => s.withPrologue prologue
  | .ownStatic pair => s.withOwnStatic pair
  | .ownEphemeral pair => s.withOwnEphemeral pair
  | .peerStatic key => s.withPeerStatic key
  | .peerEphemeral key => s.withPeerEphemeral key

/-- A setup that was handed these pieces in order. -/
def assemble (registry : Registry) (name : String) (pieces : List Piece) : Setup :=
  pieces.foldl take { registry, pattern := name }

/-- The prologue among some pieces: the last one, if there are several. -/
def prologueOf (pieces : List Piece) : Bytes :=
  (pieces.filterMap fun | .prologue prologue => some prologue | _ => none).getLast?.getD []

/-- The keys among some pieces: the last one for each place. -/
def keysOf (pieces : List Piece) : Keyring where
  ownStatic := (pieces.filterMap fun | .ownStatic pair => some pair | _ => none).getLast?
  ownEphemeral := (pieces.filterMap fun | .ownEphemeral pair => some pair | _ => none).getLast?
  peerStatic := (pieces.filterMap fun | .peerStatic key => some key | _ => none).getLast?
  peerEphemeral := (pieces.filterMap fun | .peerEphemeral key => some key | _ => none).getLast?

theorem assemble_eq (registry : Registry) (name : String) (pieces : List Piece) :
    assemble registry name pieces =
      { registry, pattern := name, prologue := prologueOf pieces, keys := keysOf pieces } := by
  induction pieces using List.reverseRecOn with
  | nil => rfl
  | append_singleton pieces piece ih =>
    rw [assemble, List.foldl_append]
    change (assemble registry name pieces).take piece = _
    rw [ih]
    -- The last piece decides its own place and leaves the others to the pieces before it.
    cases piece <;>
      simp [take, withPrologue, withOwnStatic, withOwnEphemeral, withPeerStatic, withPeerEphemeral,
        prologueOf, keysOf]

end Setup

namespace Handshake

variable {K : KeyAgreement} {T : Type} [Transcript T]

/-! ## Keys known beforehand -/

section PreMessage

variable {keys : Keyring} {role owner : Role}

theorem mixPreMessage_of_some {key : PublicKey} (h : keys.static? role owner = some key) (t : T)
    (pre : List Token) :
    mixPreMessage keys role owner t pre =
      .ok ((pre.map fun _ => key.toBytes).foldl Transcript.mixData t) := by
  induction pre generalizing t with
  | nil => rfl
  | cons token pre ih =>
    rw [mixPreMessage_cons, Keyring.staticKey_of_some h]
    exact ih _

theorem mixPreMessage_of_none (h : keys.static? role owner = none) (t : T) {pre : List Token}
    (hpre : pre ≠ []) : mixPreMessage keys role owner t pre = .error .missingKeyMaterial := by
  obtain ⟨token, rest, rfl⟩ := List.exists_cons_of_ne_nil hpre
  rw [mixPreMessage_cons, Keyring.staticKey_of_none h]

theorem mixPreMessage_pre (keys : Keyring) (p : Pattern) (role owner : Role) (t : T) :
    mixPreMessage keys role owner t (p.pre owner) =
      if keys.Unshared p role owner then .error .missingKeyMaterial
      else .ok ((keys.shared p role owner).foldl Transcript.mixData t) := by
  cases hkey : keys.static? role owner with
  | some key =>
    have hshared : keys.shared p role owner = (p.pre owner).map fun _ => key.toBytes := by
      rw [Keyring.shared, hkey, Option.map_some, ← List.filterMap_eq_map]
      rfl
    rw [if_neg fun h => by simp [h.2] at hkey, mixPreMessage_of_some hkey, hshared]
  | none =>
    -- Without the key only an empty pre-message gets by.
    by_cases hpre : p.pre owner = []
    · rw [if_neg fun h => h.1 hpre, Keyring.shared, hpre]
      rfl
    · rw [if_pos ⟨hpre, hkey⟩, mixPreMessage_of_none hkey t hpre]

/-- Takes in static keys as `mixPreMessage` does, and looks at every token: one that is not for a static key
is refused. -/
def mixPreMessageChecked (keys : Keyring) (role owner : Role) (t : T) (pre : List Token) :
    Except HandshakeError T :=
  pre.foldlM (fun t token =>
    match token with
    | .send .static => do
      let key ← keys.staticKey role owner
      return Transcript.mixData t key.toBytes
    | _ => .error .invalidToken) t

/-- A pattern has no pre-message with a token to refuse. -/
theorem mixPreMessageChecked_pre (keys : Keyring) (p : Pattern) (role owner : Role) (t : T) :
    mixPreMessageChecked keys role owner t (p.pre owner) =
      mixPreMessage keys role owner t (p.pre owner) := by
  have hstatic := p.pre_static owner
  generalize p.pre owner = pre at hstatic ⊢
  unfold mixPreMessageChecked mixPreMessage
  induction pre generalizing t with
  | nil => rfl
  | cons token pre ih =>
    have htoken := hstatic token List.mem_cons_self
    subst htoken
    rw [List.foldlM_cons, List.foldlM_cons]
    congr
    funext next
    exact ih next fun t ht => hstatic t (List.mem_cons_of_mem _ ht)

end PreMessage

/-! ## The start -/

variable {permute : Block → Block}

/-- The transcript that a handshake for a name begins with: the label, tags of 16 bytes, the prologue, and
the keys known beforehand. -/
def opening (name : String) (prologue : Bytes) (shared : List Bytes) : DuplexTranscript permute where
  duplex := (prologue :: shared).foldl Duplex.mixData (.start (Bytes.ofText (protocolLabel ++ name)))
  tag := .standard

theorem preamble_eq_opening (p : Pattern) (prologue : Bytes) :
    (preamble p prologue : DuplexTranscript permute) = opening p.name prologue [] :=
  rfl

theorem foldl_mixData_opening (name : String) (prologue : Bytes) (shared more : List Bytes) :
    more.foldl Transcript.mixData (opening name prologue shared : DuplexTranscript permute) =
      opening name prologue (shared ++ more) := by
  induction more generalizing shared with
  | nil => rw [List.append_nil]; rfl
  | cons data more ih =>
    have hone : Transcript.mixData (opening name prologue shared : DuplexTranscript permute) data =
        opening name prologue (shared ++ [data]) := by
      rw [opening, opening, List.foldl_cons, List.foldl_cons, List.foldl_append]
      rfl
    rw [List.foldl_cons, hone, ih, List.append_assoc, List.singleton_append]

theorem start_of_none {registry : Registry} {name : String} (h : registry.find? name = none)
    (role : Role) (prologue : Bytes) (keys : Keyring) :
    (start registry name role prologue keys : Except HandshakeError (Handshake K T × List Event)) =
      .error .unknownPattern := by
  unfold start Registry.get
  rw [h]
  rfl

theorem start_of_some {registry : Registry} {name : String} {p : Pattern}
    (h : registry.find? name = some p) (role : Role) (prologue : Bytes) (keys : Keyring) :
    (start registry name role prologue keys :
        Except HandshakeError (Handshake K (DuplexTranscript permute) × List Event)) =
      if keys.Unshared p role .initiator ∨ keys.Unshared p role .responder then
        .error .missingKeyMaterial
      else .ok
        ({ transcript := some
            (opening p.name prologue (keys.shared p role .initiator ++ keys.shared p role .responder))
           pattern := p, done := 0, role, keys }, [.started p.name role]) := by
  have hget : registry.get name = .ok p := by rw [Registry.get, h]
  unfold start
  rw [hget]
  -- Sixteen bytes are a length that tags can have, so that the choice is accepted.
  change (mixPreMessage keys role .initiator (preamble p prologue : DuplexTranscript permute)
    (p.pre .initiator) >>= fun t => mixPreMessage keys role .responder t (p.pre .responder) >>=
      fun t => pure (_, _)) = _
  rw [mixPreMessage_pre, preamble_eq_opening, foldl_mixData_opening]
  by_cases hi : keys.Unshared p role .initiator
  · rw [if_pos hi, if_pos (.inl hi)]
    rfl
  · rw [if_neg hi]
    change (mixPreMessage keys role .responder _ (p.pre .responder) >>= fun t => pure (_, _)) = _
    rw [mixPreMessage_pre, foldl_mixData_opening]
    by_cases hr : keys.Unshared p role .responder
    · rw [if_pos hr, if_pos (.inr hr)]
      rfl
    · rw [if_neg hr, if_neg (not_or.2 ⟨hi, hr⟩)]
      rfl

/-- A party that has a static pair and knows the static key of its peer can start for every pattern that the
registry has. -/
theorem exists_start_acquainted (K : KeyAgreement) (permute : Block → Block) {registry : Registry}
    {name : String} {p : Pattern} (h : registry.get name = .ok p) (role : Role) (prologue : Bytes)
    (mine theirs : SecretKey) :
    ∃ (fresh : Handshake K (DuplexTranscript permute)) (t : DuplexTranscript permute) (events : List Event),
      start registry name role prologue (.acquainted K mine theirs) = .ok (fresh, events) ∧
        fresh = { transcript := some t, pattern := p, done := 0, role
                  keys := .acquainted K mine theirs } := by
  have hshared := Keyring.not_unshared_acquainted K mine theirs p role
  rw [start_of_some (Registry.get_eq_ok_iff_find?.1 h),
    if_neg (not_or.2 ⟨hshared .initiator, hshared .responder⟩)]
  exact ⟨_, _, _, rfl, rfl⟩

/-- What comes of starting a handshake for a name, where these patterns are known in this order. -/
structure StartDecided (known : List Pattern) (name : String) (role : Role) (prologue : Bytes)
    (keys : Keyring)
    (outcome : Except HandshakeError (Handshake K (DuplexTranscript permute) × List Event)) : Prop where
  unknownPattern_iff : outcome = .error .unknownPattern ↔ ∀ p ∈ known, p.name ≠ name
  missingKeyMaterial_iff : ∀ p, known.find? (·.name = name) = some p →
    (outcome = .error .missingKeyMaterial ↔ ∃ owner, keys.Unshared p role owner)
  begun : ∀ p, known.find? (·.name = name) = some p → (∀ owner, ¬ keys.Unshared p role owner) →
    outcome = .ok
      ({ transcript := some
          (opening name prologue (keys.shared p role .initiator ++ keys.shared p role .responder))
         pattern := p, done := 0, role, keys }, [.started name role])

theorem startDecided {registry : Registry} {known : List Pattern} {name : String}
    (h : registry.find? name = known.find? (·.name = name)) (role : Role) (prologue : Bytes)
    (keys : Keyring) :
    StartDecided known name role prologue keys
      (start registry name role prologue keys :
        Except HandshakeError (Handshake K (DuplexTranscript permute) × List Event)) where
  unknownPattern_iff := by
    have hnone : known.find? (·.name = name) = none ↔ ∀ p ∈ known, p.name ≠ name := by
      simp only [List.find?_eq_none, decide_eq_true_eq, ne_eq]
    rw [← hnone, ← h]
    cases hfound : registry.find? name with
    | none => exact iff_of_true (start_of_none hfound role prologue keys) rfl
    | some p =>
      rw [start_of_some hfound]
      apply iff_of_false
      · split <;> exact fun he => nomatch he
      · exact fun he => nomatch he
  missingKeyMaterial_iff p hp := by
    rw [start_of_some (h.trans hp)]
    -- There are two sides, and the key of either may be the one that is not there.
    rw [Role.exists_iff]
    split
    · next hunshared => exact iff_of_true rfl hunshared
    · next hshared => exact iff_of_false (fun he => nomatch he) hshared
  begun p hp hshared := by
    have hname : p.name = name := Registry.name_of_find? (h.trans hp)
    have hboth : ¬ (keys.Unshared p role .initiator ∨ keys.Unshared p role .responder) :=
      not_or.2 ⟨hshared .initiator, hshared .responder⟩
    rw [start_of_some (h.trans hp), if_neg hboth, hname]

end Handshake

end DuplexHandshake
