import DuplexHandshake.Proofs.Handshake.Convergence
import DuplexHandshake.Proofs.Handshake.Places
import Mathlib.Logic.Function.Basic

/-!
# Traffic after a handshake

A finished handshake leaves each side a channel to write on and a channel to read from. Whatever is
sealed on one side and opened on the other in the order of the sealing arrives as it was, however the
two directions are interleaved and however long a segment is on its way; and the two directions have
nothing to do with each other.
-/

namespace DuplexHandshake

open DuplexTranscript (InSync)

/-! ## Connections -/

/-- A sealed segment on its way, with the associated data that both sides know. -/
structure Parcel where
  segment : Bytes
  associated : Bytes

/-- Two sides after a handshake, and what is on its way between them. -/
structure Connection (T : Type) where
  /-- The channels of a side, the one that it writes on before the one that it reads from. -/
  channels : Role → Channel T × Channel T
  /-- What a side has sealed and the other has not opened yet, the oldest first. -/
  transit : Role → List Parcel

/-- Something that happens on a connection. -/
inductive Deed where
  /-- A side seals a text and appends the segment to a buffer. -/
  | send (sender : Role) (text associated buffer : Bytes)
  /-- The other side opens the sender's oldest segment and appends the text to a buffer. -/
  | receive (sender : Role) (buffer : Bytes)

/-- The side whose segment a deed is about. -/
def Deed.sender : Deed → Role
  | send sender .. => sender
  | receive sender _ => sender

/-- What a side is told, and its buffer afterwards; nothing if there was no segment to open. -/
abbrev Report := Option (Except HandshakeError Unit × Bytes)

namespace Connection

variable {T : Type}

/-- The connection of two sides that take their channels from a finished handshake. -/
def between (initiator responder : Channels T) : Connection T where
  channels role := (role.select initiator responder).forRole role
  transit _ := []

/-- All that one direction of traffic is made of: the sender's channel, the receiver's, and what is on
its way. -/
def direction (c : Connection T) (sender : Role) : Channel T × Channel T × List Parcel :=
  ((c.channels sender).1, (c.channels sender.other).2, c.transit sender)

variable [Transcript T]

def perform (c : Connection T) : Deed → Report × Connection T
  | .send sender text associated buffer =>
    let (send, receive) := c.channels sender
    let (filled, transcript) := Transcript.encryptInto send.transcript text associated buffer
    let parcel : Parcel := { segment := filled.drop buffer.length, associated }
    (some (.ok (), filled),
      { channels := Function.update c.channels sender (⟨transcript⟩, receive)
        transit := Function.update c.transit sender (c.transit sender ++ [parcel]) })
  | .receive sender buffer =>
    match c.transit sender with
    | [] => (none, c)
    | parcel :: later =>
      let (send, receive) := c.channels sender.other
      let (verdict, filled, transcript) :=
        Transcript.decryptInto receive.transcript parcel.segment parcel.associated buffer
      (some (verdict, filled),
        { channels := Function.update c.channels sender.other (send, ⟨transcript⟩)
          transit := Function.update c.transit sender later })

def after (c : Connection T) (deeds : List Deed) : Connection T :=
  deeds.foldl (fun c deed => (c.perform deed).2) c

/-- What those deeds tell that satisfy a condition, one after another. -/
def reports (c : Connection T) (counts : Deed → Bool) : List Deed → List Report
  | [] => []
  | deed :: rest =>
    let (report, next) := c.perform deed
    if counts deed then report :: next.reports counts rest else next.reports counts rest

end Connection

/-! ## What should arrive -/

namespace Deed

def isReceive : Deed → Bool
  | send .. => false
  | receive .. => true

/-- What the openings among the deeds should tell, if these texts are on their way: each text as it
was sent, in the order of the sending. -/
def arrivals (waiting : Role → List Bytes) : List Deed → List Report
  | [] => []
  | send sender text _ _ :: rest =>
    arrivals (Function.update waiting sender (waiting sender ++ [text])) rest
  | receive sender buffer :: rest =>
    match waiting sender with
    | [] => none :: arrivals waiting rest
    | text :: later =>
      some (.ok (), buffer ++ text) :: arrivals (Function.update waiting sender later) rest

end Deed

/-- A connection that carries these deeds as it should: every opening succeeds and delivers what was
sealed, and each direction is as if there were no other. -/
structure Connection.Faithful {T : Type} [Transcript T] (c : Connection T) (deeds : List Deed) :
    Prop where
  delivers : c.reports Deed.isReceive deeds = Deed.arrivals (fun _ => []) deeds
  separate_reports : ∀ sender,
    c.reports (·.sender = sender) deeds =
      c.reports (·.sender = sender) (deeds.filter (·.sender = sender))
  separate_state : ∀ sender,
    (c.after deeds).direction sender =
      (c.after (deeds.filter (·.sender = sender))).direction sender

/-! ## One direction and the other -/

namespace Connection

variable {T : Type} [Transcript T] {c d : Connection T} {sender : Role}

/-- A deed leaves the direction alone that it is not about. -/
theorem direction_perform_of_ne {deed : Deed} (h : sender ≠ deed.sender) :
    (c.perform deed).2.direction sender = c.direction sender := by
  have hne : sender.other ≠ sender := Role.other_ne sender
  cases deed with
  | send author text associated buffer =>
    obtain rfl : sender.other = author := Role.other_eq_of_ne h
    simp [direction, perform, hne.symm]
  | receive author buffer =>
    obtain rfl : sender.other = author := Role.other_eq_of_ne h
    cases htransit : c.transit sender.other with
    | nil => simp [direction, perform, htransit]
    | cons parcel later => simp [direction, perform, htransit, hne, hne.symm]

/-- What a deed tells, and what it does to its direction, depends on that direction alone. -/
theorem perform_congr {deed : Deed} (h : c.direction deed.sender = d.direction deed.sender) :
    (c.perform deed).1 = (d.perform deed).1 ∧
      (c.perform deed).2.direction deed.sender = (d.perform deed).2.direction deed.sender := by
  have hne : deed.sender.other ≠ deed.sender := Role.other_ne deed.sender
  simp only [direction, Prod.mk.injEq] at h
  rcases h with ⟨hsend, hreceive, htransit⟩
  cases deed with
  | send author text associated buffer =>
    simp only [Deed.sender] at hsend hreceive htransit hne
    simp [direction, perform, Deed.sender, hsend, hreceive, htransit, hne]
  | receive author buffer =>
    simp only [Deed.sender] at hsend hreceive htransit hne
    cases hd : d.transit author with
    | nil =>
      rw [hd] at htransit
      simp [direction, perform, Deed.sender, hsend, hreceive, htransit, hd]
    | cons parcel later =>
      rw [hd] at htransit
      simp [direction, perform, Deed.sender, hsend, hreceive, htransit, hd, hne.symm]

theorem after_cons (deed : Deed) (rest : List Deed) :
    c.after (deed :: rest) = (c.perform deed).2.after rest :=
  rfl

theorem reports_cons (counts : Deed → Bool) (deed : Deed) (rest : List Deed) :
    c.reports counts (deed :: rest) =
      if counts deed then (c.perform deed).1 :: (c.perform deed).2.reports counts rest
      else (c.perform deed).2.reports counts rest :=
  rfl

/-- Any deeds tell of a direction, and do to it, what those of them do that are about it. -/
theorem reports_filter (deeds : List Deed) (h : c.direction sender = d.direction sender) :
    c.reports (·.sender = sender) deeds =
        d.reports (·.sender = sender) (deeds.filter (·.sender = sender)) ∧
      (c.after deeds).direction sender =
        (d.after (deeds.filter (·.sender = sender))).direction sender := by
  -- `c` meets all deeds and `d` only those of the direction; all along they agree on it.
  induction deeds generalizing c d with
  | nil => exact ⟨rfl, h⟩
  | cons deed rest ih =>
    by_cases habout : deed.sender = sender
    · subst habout
      have hone := perform_congr h
      have hrest := ih hone.2
      rw [List.filter_cons_of_pos (by simp), after_cons, after_cons, reports_cons, reports_cons,
        if_pos (by simp), if_pos (by simp), hone.1, hrest.1]
      exact ⟨rfl, hrest.2⟩
    · have hrest := ih ((direction_perform_of_ne (Ne.symm habout)).trans h)
      rw [List.filter_cons_of_neg (by simpa using habout), after_cons, reports_cons,
        if_neg (by simpa using habout)]
      exact hrest

end Connection

/-! ## From the sender to the receiver -/

theorem Transcript.decryptInto_of_ok {T : Type} [Transcript T] {t : T}
    {sealed associated text : Bytes} (h : (Transcript.decrypt t sealed associated).1 = .ok text)
    (buffer : Bytes) :
    Transcript.decryptInto t sealed associated buffer =
      (.ok (), buffer ++ text, (Transcript.decrypt t sealed associated).2) := by
  unfold decryptInto
  generalize Transcript.decrypt t sealed associated = opened at h
  rcases opened with ⟨verdict, next⟩
  cases h
  rfl

variable {K : KeyAgreement} {permute : Block → Block}

/-- A receiver that is behind its sender by some segments, in which these texts are sealed. -/
inductive Pending : (sender receiver : DuplexTranscript permute) → List Parcel → List Bytes → Prop where
  | level {s r : DuplexTranscript permute} : InSync s r → Pending s r [] []
  | behind {s r : DuplexTranscript permute} {parcel : Parcel} {text : Bytes} {parcels : List Parcel}
      {texts : List Bytes} :
      (Transcript.decrypt r parcel.segment parcel.associated).1 = .ok text →
      Pending s (Transcript.decrypt r parcel.segment parcel.associated).2 parcels texts →
      Pending s r (parcel :: parcels) (text :: texts)

/-- A segment that is sealed joins the end of those on their way. -/
theorem Pending.encrypt {s r : DuplexTranscript permute} {parcels : List Parcel} {texts : List Bytes}
    (h : Pending s r parcels texts) (text associated : Bytes) :
    Pending (Transcript.encrypt s text associated).2 r
      (parcels ++ [{ segment := (Transcript.encrypt s text associated).1, associated }])
      (texts ++ [text]) := by
  -- The receiver stays where it is, so the induction goes down to where it will be level.
  induction h with
  | level hsync =>
    have hopen := hsync.decrypt_encrypt text associated
    exact .behind hopen.1 (.level hopen.2)
  | behind hopen _ ih => exact .behind hopen ih

/-- Each direction of a connection is behind by the texts that are waiting. -/
def Flowing (c : Connection (DuplexTranscript permute)) (waiting : Role → List Bytes) : Prop :=
  ∀ sender, Pending (c.channels sender).1.transcript (c.channels sender.other).2.transcript
    (c.transit sender) (waiting sender)

namespace Flowing

variable {c : Connection (DuplexTranscript permute)} {waiting : Role → List Bytes}

theorem of_direction {d : Connection (DuplexTranscript permute)} {sender : Role}
    (h : Flowing c waiting) (hsame : d.direction sender = c.direction sender) :
    Pending (d.channels sender).1.transcript (d.channels sender.other).2.transcript
      (d.transit sender) (waiting sender) := by
  simp only [Connection.direction, Prod.mk.injEq] at hsame
  rw [hsame.1, hsame.2.1, hsame.2.2]
  exact h sender

theorem send (h : Flowing c waiting) (sender : Role) (text associated buffer : Bytes) :
    Flowing (c.perform (.send sender text associated buffer)).2
      (Function.update waiting sender (waiting sender ++ [text])) := by
  intro role
  by_cases hrole : role = sender
  · subst hrole
    have hne : role.other ≠ role := Role.other_ne role
    have hpending := (h role).encrypt text associated
    simpa [Connection.perform, Transcript.encryptInto, hne] using hpending
  · rw [Function.update_of_ne hrole]
    exact h.of_direction (Connection.direction_perform_of_ne hrole)

/-- With nothing on its way there is nothing to open; otherwise the oldest text arrives. -/
theorem receive (h : Flowing c waiting) (sender : Role) (buffer : Bytes) :
    (waiting sender = [] ∧ c.perform (.receive sender buffer) = (none, c)) ∨
      ∃ text later, waiting sender = text :: later ∧
        (c.perform (.receive sender buffer)).1 = some (.ok (), buffer ++ text) ∧
        Flowing (c.perform (.receive sender buffer)).2 (Function.update waiting sender later) := by
  have hsender := h sender
  -- Texts and segments are two views of one queue, empty or not.
  generalize htexts : waiting sender = texts at hsender
  generalize htransit : c.transit sender = parcels at hsender
  cases hsender with
  | level _ => exact .inl ⟨rfl, by simp [Connection.perform, htransit]⟩
  | @behind _ parcel text parcels later hopen hpending =>
    have hinto := Transcript.decryptInto_of_ok hopen buffer
    refine .inr ⟨text, later, rfl, by simp [Connection.perform, htransit, hinto], ?_⟩
    intro role
    by_cases hrole : role = sender
    · subst hrole
      have hne : role ≠ role.other := (Role.other_ne role).symm
      simpa [Connection.perform, htransit, hinto, hne] using hpending
    · rw [Function.update_of_ne hrole]
      exact h.of_direction (Connection.direction_perform_of_ne hrole)

/-- Whatever is opened on the way is what should arrive. -/
theorem reports (h : Flowing c waiting) (deeds : List Deed) :
    c.reports Deed.isReceive deeds = Deed.arrivals waiting deeds := by
  induction deeds generalizing c waiting with
  | nil => rfl
  | cons deed rest ih =>
    rw [Connection.reports_cons]
    cases deed with
    | send sender text associated buffer => exact ih (h.send sender text associated buffer)
    | receive sender buffer =>
      rw [if_pos (show (Deed.receive sender buffer).isReceive = true from rfl)]
      rcases h.receive sender buffer with ⟨hnone, hperform⟩ | ⟨text, later, hsome, hreport, hflowing⟩
      · rw [hperform, Deed.arrivals, hnone, ih h]
      · rw [hreport, Deed.arrivals, hsome, ih hflowing]

end Flowing

theorem Channels.InSync.symm {c d : Channels (DuplexTranscript permute)} (h : Channels.InSync c d) :
    Channels.InSync d c :=
  ⟨h.toResponder.symm, h.toInitiator.symm, h.handshakeHash.symm⟩

/-- Two sides whose channels fit have a channel in step for each direction. -/
theorem flowing_between {ci cr : Channels (DuplexTranscript permute)} (h : Channels.InSync ci cr) :
    Flowing (.between ci cr) (fun _ => []) := by
  intro sender
  apply Pending.level
  cases sender with
  | initiator => exact h.toResponder
  | responder => exact h.toInitiator.symm

theorem KeyAgreement.sharedSecret_of_ne {K : KeyAgreement} {pair : KeyPair} {peer : PublicKey}
    (h : K.combine pair.secret peer ≠ Vector.replicate keyLength 0) :
    K.sharedSecret pair peer = .ok ⟨K.combine pair.secret peer⟩ :=
  if_neg h

namespace Handshake

variable {i r : Handshake K (DuplexTranscript permute)}

/-- Two sides driven to the end: the last message gives channels to both. -/
inductive Completed (i r : Handshake K (DuplexTranscript permute)) :
    Channels (DuplexTranscript permute) → Channels (DuplexTranscript permute) → Prop where
  | initiator {n : Nat} {x y : Handshake K (DuplexTranscript permute)}
      {ci cr : Channels (DuplexTranscript permute)}
      (payload out message buffer : Bytes) (random : RandomStream) :
      Driven i r n x y → x.turn = .write →
      (x.write payload out random).1.result = .ok (some ci) →
      (x.write payload out random).1.buffer = out ++ message →
      (y.read message buffer).result = .ok (some cr) → Completed i r ci cr
  | responder {n : Nat} {x y : Handshake K (DuplexTranscript permute)}
      {ci cr : Channels (DuplexTranscript permute)}
      (payload out message buffer : Bytes) (random : RandomStream) :
      Driven i r n x y → y.turn = .write →
      (y.write payload out random).1.result = .ok (some cr) →
      (y.write payload out random).1.buffer = out ++ message →
      (x.read message buffer).result = .ok (some ci) → Completed i r ci cr

/-- The last message gives channels that fit. -/
theorem Abreast.channels {a b : Handshake K (DuplexTranscript permute)} (h : Abreast a b)
    (commutes : K.Commutes) {payload out message buffer : Bytes} {random : RandomStream}
    {mine theirs : Channels (DuplexTranscript permute)}
    (hwrite : (a.write payload out random).1.result = .ok (some mine))
    (hout : (a.write payload out random).1.buffer = out ++ message)
    (hread : (b.read message buffer).result = .ok (some theirs)) : Channels.InSync mine theirs := by
  rcases h.exchange commutes hwrite with ⟨written, hwritten, hreceived⟩
  obtain rfl : message = written := List.append_cancel_left (hout.symm.trans hwritten)
  cases hreceived buffer with
  | delivered found hfound hrel _ _ _ _ =>
    have hsame : found = some theirs := Except.ok.inj (hfound.symm.trans hread)
    rw [hsame] at hrel
    exact Option.rel_some_some.1 hrel
  | lacking _ _ _ herror =>
    rw [herror] at hread
    cases hread

theorem Completed.inSync {ci cr : Channels (DuplexTranscript permute)} (run : Completed i r ci cr)
    (commutes : K.Commutes) (h : Abreast i r) : Channels.InSync ci cr := by
  cases run with
  | initiator payload out message buffer random driven _ hwrite hout hread =>
    exact (driven.abreast commutes h).1.channels commutes hwrite hout hread
  | responder payload out message buffer random driven _ hwrite hout hread =>
    exact ((driven.abreast commutes h).1.symm.channels commutes hwrite hout hread).symm

/-- Two sides that finish a handshake, driven as two sides that converge, can send each other
whatever they like: what one seals the other opens as it was sealed, and neither direction touches
the other. -/
theorem faithful_of_completed (commutes : K.Commutes) {ri rr : Registry} {name : String}
    {pattern : Pattern} {prologue : Bytes} {ki kr : Keyring} {ei er : List Event}
    {ci cr : Channels (DuplexTranscript permute)}
    (hi : ri.get name = .ok pattern) (hr : rr.get name = .ok pattern) (hkeys : ki.Partners K kr)
    (starti : start ri name .initiator prologue ki = .ok (i, ei))
    (startr : start rr name .responder prologue kr = .ok (r, er))
    (run : Completed i r ci cr) (deeds : List Deed) : (Connection.between ci cr).Faithful deeds := by
  have hstart : Abreast i r := abreast_of_start hi hr hkeys starti startr
  have hsync : Channels.InSync ci cr := run.inSync commutes hstart
  refine ⟨(flowing_between hsync).reports deeds, ?_, ?_⟩
  · intro sender
    exact (Connection.reports_filter deeds rfl).1
  · intro sender
    exact (Connection.reports_filter deeds rfl).2

/-- A single message from the responder, between sides that know each other's static keys. -/
def announcement : Pattern :=
  { acquainted with
    name := "announcement"
    steps := [⟨.toInitiator, [.send .ephemeral, .mix .static .static]⟩]
    steps_ne_nil := by simp
    tokens_ne_nil := by simp }

/-- Texts that cross on their way, after a handshake that the responder opens and ends: two of them
arrive, and a third segment is never there to be opened. -/
theorem faithful_of_completed_announcement :
    let a : SecretKey := ⟨Vector.replicate keyLength 1⟩
    let b : SecretKey := ⟨Vector.replicate keyLength 2⟩
    let K := x25519.between a b
    let ki : Keyring := { ownStatic := some (K.keyPair a), peerStatic := some (K.publicKey b) }
    let kr : Keyring := { ownStatic := some (K.keyPair b), peerStatic := some (K.publicKey a) }
    let registry : Registry := ⟨[announcement], by simp⟩
    let deeds : List Deed :=
      [.send .responder [1, 2] [9] [], .send .initiator [3] [] [8], .receive .initiator [4],
        .receive .responder [], .receive .responder [5]]
    ∃ (i r : Handshake K (DuplexTranscript Keccak.permute)) (ei er : List Event)
        (ci cr : Channels (DuplexTranscript Keccak.permute)),
      start registry "announcement" .initiator [1] ki = .ok (i, ei) ∧
        start registry "announcement" .responder [1] kr = .ok (r, er) ∧
        Completed i r ci cr ∧ (Connection.between ci cr).Faithful deeds ∧
        (Connection.between ci cr).reports Deed.isReceive deeds =
          [some (.ok (), [4, 3]), some (.ok (), [1, 2]), none] := by
  intro a b K ki kr registry deeds
  have hcombine : K.combine b (K.publicKey a) = x25519.combine a (x25519.publicKey b) :=
    x25519.between_combine_right a b
  have hne : x25519.combine a (x25519.publicKey b) ≠ Vector.replicate keyLength 0 := by
    decide +kernel
  rw [← hcombine] at hne
  have commutes : K.Commutes := x25519.between_commutes a b
  -- The keys themselves do not matter from here on.
  clear hcombine
  clear_value a b K
  have hsecret : K.sharedSecret (K.keyPair b) (K.publicKey a) = .ok _ :=
    KeyAgreement.sharedSecret_of_ne hne
  have hkeys : ki.Partners K kr := Keyring.partners_acquainted K a b
  have hget : registry.get "announcement" = .ok announcement := rfl
  obtain ⟨i, t, ei, hi, hfirst⟩ := exists_start_acquainted K Keccak.permute hget .initiator [1] a b
  obtain ⟨r, u, er, hr, hsecond⟩ := exists_start_acquainted K Keccak.permute hget .responder [1] b a
  have hstart : Abreast i r := abreast_of_start hget hget hkeys hi hr
  have hwrite : ∃ cr, (r.write [7] [] (.cyclic [1])).1.result = .ok (some cr) := by
    have hshared : kr.sharedSecret K .responder .static .static = .ok _ := hsecret
    have htokens : ∃ last, Writer.tokens K .responder
        { transcript := u, keys := kr, random := .cyclic [1], message := [] }
        [.send .ephemeral, .mix .static .static] = .ok last :=
      ⟨_, Writer.tokens_cons_eq_ok.2
        ⟨_, rfl, Writer.tokens_cons_eq_ok.2 ⟨_, Writer.token_mix hshared, rfl⟩⟩⟩
    rcases htokens with ⟨last, htokens⟩
    refine ⟨.ofTranscript (Transcript.encrypt last.transcript [7] []).2, ?_⟩
    rw [hsecond, write_of_tokens rfl rfl htokens]
    rfl
  rcases hwrite with ⟨cr, hwrite⟩
  rcases hstart.symm.exchange commutes hwrite with ⟨message, hout, hreceived⟩
  have hturn : r.turn = .write := by
    rw [hsecond]
    rfl
  cases hreceived [] with
  | delivered theirs hread hrel _ _ _ _ =>
    cases theirs with
    | none => cases hrel
    | some ci =>
      have hrun := Completed.responder [7] [] message [] (.cyclic [1]) (.start : Driven i r 0 i r)
        hturn hwrite hout hread
      have hfaithful := faithful_of_completed commutes hget hget hkeys hi hr hrun deeds
      exact ⟨i, r, ei, er, ci, cr, hi, hr, hrun, hfaithful, hfaithful.delivers⟩
  | lacking step initiator responder _ _ _ hstep hmem hlacks =>
    -- The only secret is that of the static keys, and a reader loses none that it has.
    exfalso
    have hlearned := i.read_keys message []
    generalize (i.read message []).state.keys = learned at hlearned hlacks
    rw [hfirst] at hstep hlearned hlacks
    cases hstep
    obtain ⟨rfl, rfl⟩ : initiator = .static ∧ responder = .static := by simpa using hmem
    exact Keyring.not_lacks_acquainted K a b .initiator (hlearned.lacks_static hlacks)

end Handshake

end DuplexHandshake
