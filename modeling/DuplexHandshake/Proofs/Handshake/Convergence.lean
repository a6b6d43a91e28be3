import DuplexHandshake.Curve25519.X25519
import DuplexHandshake.Proofs.Handshake.Exchange
import DuplexHandshake.Proofs.Handshake.LifeCycle
import DuplexHandshake.Proofs.Handshake.Start

/-!
# Two handshakes that converge

Two sides that start alike stay abreast of each other: they are at the same step, their transcripts
are in step and their keys fit. A message that one of them writes takes the other along, or makes it
stop for want of a key; nothing else can happen to it.
-/

namespace DuplexHandshake

open DuplexTranscript (InSync)

variable {K : KeyAgreement} {permute : Block → Block}

/-- Channels of two sides on which they understand each other. -/
structure Channels.InSync (c d : Channels (DuplexTranscript permute)) : Prop where
  toResponder : DuplexTranscript.InSync c.toResponder.transcript d.toResponder.transcript
  toInitiator : DuplexTranscript.InSync c.toInitiator.transcript d.toInitiator.transcript
  handshakeHash : c.handshakeHash = d.handshakeHash

theorem Channel.inSync_fork {t u : DuplexTranscript permute} (h : InSync t u) (label : String) :
    InSync (Channel.fork t label).transcript (Channel.fork u label).transcript := by
  have hlabelled := h.mixMetadata (Bytes.ofText label)
  exact hlabelled.ratchet (Transcript.ratchetLength (DuplexTranscript permute))

theorem Channels.inSync_ofTranscript {t u : DuplexTranscript permute}
    (h : DuplexTranscript.InSync t u) :
    Channels.InSync (.ofTranscript t) (.ofTranscript u) := by
  have hhash := h.prf handshakeHashLength
  refine ⟨Channel.inSync_fork h "initiator", Channel.inSync_fork h "responder", ?_⟩
  simp only [Channels.ofTranscript]
  exact hhash.1

namespace Handshake

variable {a b : Handshake K (DuplexTranscript permute)}

/-- Two handshakes at the same place, each the other's peer. -/
structure Abreast (a b : Handshake K (DuplexTranscript permute)) : Prop where
  pattern : a.pattern = b.pattern
  done : a.done = b.done
  done_le : a.done ≤ a.pattern.steps.length
  role : b.role = a.role.other
  keys : a.keys.Partners K b.keys
  transcript : Option.Rel InSync a.transcript b.transcript

/-- How a message is received: with its payload, and the sides stay abreast; or not at all, for want
of a key that a secret of the step is made from. -/
inductive Received (a b : Handshake K (DuplexTranscript permute)) (payload buffer : Bytes)
    (channels : Option (Channels (DuplexTranscript permute)))
    (o : Outcome K (DuplexTranscript permute)) : Prop where
  | delivered (theirs : Option (Channels (DuplexTranscript permute))) :
      o.result = .ok theirs → Option.Rel Channels.InSync channels theirs →
      o.buffer = buffer ++ payload → o.state.done = b.done + 1 → Abreast a o.state →
      (theirs.isSome ↔ b.done + 1 = b.pattern.steps.length) →
      Received a b payload buffer channels o
  | lacking (step : Step) (initiator responder : KeyKind) :
      o.result = .error .missingKeyMaterial → o.buffer = buffer → o.state.done = b.done →
      b.step? = some step → .mix initiator responder ∈ step.tokens →
      o.state.keys.Lacks b.role initiator responder →
      Received a b payload buffer channels o

namespace Abreast

theorem symm (h : Abreast a b) : Abreast b a := by
  refine ⟨h.pattern.symm, h.done.symm, ?_, ?_, h.keys.symm, ?_⟩
  · rw [← h.done, ← h.pattern]
    exact h.done_le
  · rw [h.role, Role.other_other]
  · have htranscript := h.transcript
    generalize a.transcript = x, b.transcript = y at htranscript
    cases htranscript with
    | some hsync => exact .some hsync.symm
    | none => exact .none

theorem step?_eq (h : Abreast a b) : b.step? = a.step? := by
  unfold step?
  rw [h.pattern, h.done]

/-- Until the last step is done, one side writes and the other reads. -/
theorem turns (h : Abreast a b) :
    (a.done < a.pattern.steps.length ∧
        (a.turn = .write ∧ b.turn = .read ∨ a.turn = .read ∧ b.turn = .write)) ∨
      (a.done = a.pattern.steps.length ∧ a.turn = .over ∧ b.turn = .over) := by
  have hle := h.done_le
  unfold turn
  rw [h.step?_eq]
  cases hstep : a.step? with
  | none =>
    have hdone := a.step?_eq_none_iff.1 hstep
    exact .inr ⟨by omega, rfl, rfl⟩
  | some step =>
    have hdone : a.done < a.pattern.steps.length := done_lt_of_step? hstep
    refine .inl ⟨hdone, ?_⟩
    dsimp only
    rw [h.role]
    by_cases hwriter : step.direction.writer = a.role
    · rw [if_pos hwriter, if_neg (by rw [hwriter]; exact (Role.other_ne a.role).symm)]
      exact .inl ⟨rfl, rfl⟩
    · have hother : step.direction.writer = a.role.other :=
        (Role.other_eq_of_ne (Ne.symm hwriter)).symm
      rw [if_neg hwriter, if_pos hother]
      exact .inr ⟨rfl, rfl⟩

/-- Both sides finish the step: they stay abreast, and their channels fit. -/
theorem finishStep (h : Abreast a b) (hleft : a.done < a.pattern.steps.length)
    {t u : DuplexTranscript permute} (hsync : InSync t u) {ka kb : Keyring}
    (hkeys : ka.Partners K kb) (out buffer : Bytes) (wrote read : Event) :
    ∃ mine theirs,
      ((a.holding t ka).finishStep out wrote).result = .ok mine ∧
      ((b.holding u kb).finishStep buffer read).result = .ok theirs ∧
      Option.Rel Channels.InSync mine theirs ∧
      Abreast ((a.holding t ka).finishStep out wrote).state
        ((b.holding u kb).finishStep buffer read).state ∧
      (theirs.isSome ↔ b.done + 1 = b.pattern.steps.length) := by
  have hdone : b.done = a.done := h.done.symm
  have hpattern : b.pattern = a.pattern := h.pattern.symm
  rw [finishStep_eq, finishStep_eq, hdone, hpattern]
  by_cases hmore : a.done + 1 < a.pattern.steps.length
  · rw [if_pos hmore, if_pos hmore]
    refine ⟨none, none, rfl, rfl, .none, ⟨rfl, rfl, hleft, h.role, hkeys, .some hsync⟩, ?_⟩
    exact iff_of_false Bool.false_ne_true (by omega)
  · rw [if_neg hmore, if_neg hmore]
    refine ⟨_, _, rfl, rfl, .some (Channels.inSync_ofTranscript hsync),
      ⟨rfl, rfl, hleft, h.role, hkeys, .none⟩, ?_⟩
    exact iff_of_true rfl (by omega)

theorem received (h : Abreast a b) {step : Step} (hstep : a.step? = some step)
    {u : DuplexTranscript permute} (hu : b.transcript = some u)
    {w : Writer (DuplexTranscript permute)} {payload message : Bytes}
    (hlong : step.tokenLength b.tagLength ≤ message.length)
    {result : Except (Interruption (Reader (DuplexTranscript permute)))
      (Reader (DuplexTranscript permute))}
    (hresult : Reader.tokens K b.role b.tagLength
      { transcript := u, keys := b.keys, rest := message } step.tokens = result)
    (harrival :
      Arrival K b.role step.tokens w (Transcript.encrypt w.transcript payload []).1 result)
    {out buffer : Bytes} {wrote : Event} {channels : Option (Channels (DuplexTranscript permute))}
    (hok : ((a.holding (Transcript.encrypt w.transcript payload []).2 w.keys).finishStep out
      wrote).result = .ok channels) :
    Received
      ((a.holding (Transcript.encrypt w.transcript payload []).2 w.keys).finishStep out wrote).state
      b payload buffer channels (b.read message buffer) := by
  have hleft : a.done < a.pattern.steps.length := done_lt_of_step? hstep
  unfold read
  rw [h.step?_eq, hstep, hu]
  dsimp only
  rw [if_neg (by omega), hresult]
  cases harrival with
  | complete r hsync hkeys hrest =>
    have hopen := hsync.decrypt_encrypt payload []
    rw [← hrest] at hopen
    dsimp only
    generalize hd : Transcript.decrypt r.transcript r.rest [] = opened
    rw [hd] at hopen
    rcases opened with ⟨verdict, v⟩
    have hverdict : verdict = .ok payload := hopen.1
    subst hverdict
    have hfinish := h.finishStep hleft hopen.2 hkeys out (buffer ++ payload) wrote
      (.read b.done step.tokens.length message.length)
    rcases hfinish with ⟨mine, theirs, hmine, htheirs, hchannels, habreast, hlast⟩
    have hsame : mine = channels := Except.ok.inj (hmine.symm.trans hok)
    rw [← hsame]
    refine .delivered theirs htheirs hchannels ?_ ?_ habreast hlast
    · rw [finishStep_buffer]
    · rw [finishStep_state_done]
  | lacking r initiator responder hmem hlacks =>
    have hsame : b.step? = some step := by rw [h.step?_eq, hstep]
    exact .lacking step initiator responder rfl rfl rfl hsame hmem hlacks

/-- A message that one side writes reaches the other, which has every key for it or stops. -/
theorem exchange (h : Abreast a b) (commutes : K.Commutes) {payload out : Bytes}
    {random : RandomStream} {channels : Option (Channels (DuplexTranscript permute))}
    (hok : (a.write payload out random).1.result = .ok channels) :
    ∃ message, (a.write payload out random).1.buffer = out ++ message ∧
      ∀ buffer, Received (a.write payload out random).1.state b payload buffer channels
        (b.read message buffer) := by
  rcases write_of_ok hok with ⟨step, t, w, hstep, ht, hw, hwrite⟩
  rw [hwrite] at hok ⊢
  -- The reader has a transcript as well, and it is in step.
  have htranscript := h.transcript
  rw [ht] at htranscript
  cases hu : b.transcript with
  | none =>
    rw [hu] at htranscript
    cases htranscript
  | some u =>
    rw [hu] at htranscript
    have hsync : InSync t u := Option.rel_some_some.1 htranscript
    have htag : b.tagLength = Transcript.tagLength t := by
      rw [hsync.tagLength, tagLength, hu]
    rcases Writer.adds_tokens commutes htag.symm hw with ⟨segment, hsegment⟩
    have hmessage : w.message = segment := hsegment.message
    refine ⟨w.message ++ (Transcript.encrypt w.transcript payload []).1, ?_, ?_⟩
    · exact finishStep_buffer _ _ _
    · intro buffer
      have hlong : step.tokenLength b.tagLength ≤
          (w.message ++ (Transcript.encrypt w.transcript payload []).1).length := by
        rw [List.length_append, hmessage, hsegment.length, Step.tokenLength_eq_sum]
        exact Nat.le_add_right _ _
      apply h.received hstep hu hlong rfl ?_ hok
      rw [h.role]
      exact hsegment.arrival _ _ hsync h.keys (by rw [hmessage])

end Abreast

/-! ## From the start -/

theorem inSync_preamble (pattern : Pattern) (prologue : Bytes) :
    InSync (preamble pattern prologue : DuplexTranscript permute) (preamble pattern prologue) := by
  let label := Bytes.ofText (protocolLabel ++ pattern.name)
  have hlabelled : InSync (Transcript.start label : DuplexTranscript permute)
      (Transcript.start label) := InSync.start label
  have htag := hlabelled.setTagLength handshakeTagLength
  exact htag.2.mixData prologue

/-- Both sides take in the same keys beforehand, each from what it knows. -/
theorem inSync_mixPreMessage {ka kb : Keyring} (hkeys : ka.Partners K kb) {role owner : Role}
    {pre : List Token} {t u t' u' : DuplexTranscript permute} (hsync : InSync t u)
    (ha : mixPreMessage ka role owner t pre = .ok t')
    (hb : mixPreMessage kb role.other owner u pre = .ok u') : InSync t' u' := by
  induction pre generalizing t u with
  | nil =>
    cases ha
    cases hb
    exact hsync
  | cons token pre ih =>
    rw [mixPreMessage_cons] at ha hb
    split at ha
    · next mine hmine =>
      split at hb
      · next theirs htheirs =>
        have hsame : mine = theirs := hkeys.staticKey_eq hmine htheirs
        subst hsame
        exact ih (hsync.mixData _) ha hb
      · cases hb
    · cases ha

theorem abreast_of_start {ri rr : Registry} {name : String} {pattern : Pattern} {prologue : Bytes}
    {ki kr : Keyring} {ei er : List Event} (hi : ri.get name = .ok pattern)
    (hr : rr.get name = .ok pattern) (hkeys : ki.Partners K kr)
    (starti : start ri name .initiator prologue ki = .ok (a, ei))
    (startr : start rr name .responder prologue kr = .ok (b, er)) : Abreast a b := by
  rcases exists_of_start starti with ⟨pi, ti, ui, hpi, hti, hui, ha⟩
  rcases exists_of_start startr with ⟨pr, tr, ur, hpr, htr, hur, hb⟩
  have hpi' : pi = pattern := Except.ok.inj (hpi.symm.trans hi)
  have hpr' : pr = pattern := Except.ok.inj (hpr.symm.trans hr)
  subst hpi' hpr' ha hb
  have hfirst : InSync ti tr := inSync_mixPreMessage hkeys (inSync_preamble _ prologue) hti htr
  have hsecond : InSync ui ur := inSync_mixPreMessage hkeys hfirst hui hur
  exact ⟨rfl, rfl, Nat.zero_le _, rfl, hkeys, .some hsecond⟩

/-! ## Any number of steps -/

/-- Two sides driven through so many steps: the one whose turn it is writes, and the other reads
just what was written. A call that fails ends the run. -/
inductive Driven (i r : Handshake K (DuplexTranscript permute)) :
    Nat → Handshake K (DuplexTranscript permute) → Handshake K (DuplexTranscript permute) → Prop where
  | start : Driven i r 0 i r
  | initiator {n : Nat} {x y : Handshake K (DuplexTranscript permute)}
      (payload out message buffer : Bytes) (random : RandomStream) :
      Driven i r n x y → x.turn = .write →
      (x.write payload out random).1.result.isOk →
      (x.write payload out random).1.buffer = out ++ message →
      (y.read message buffer).result.isOk →
      Driven i r (n + 1) (x.write payload out random).1.state (y.read message buffer).state
  | responder {n : Nat} {x y : Handshake K (DuplexTranscript permute)}
      (payload out message buffer : Bytes) (random : RandomStream) :
      Driven i r n x y → y.turn = .write →
      (y.write payload out random).1.result.isOk →
      (y.write payload out random).1.buffer = out ++ message →
      (x.read message buffer).result.isOk →
      Driven i r (n + 1) (x.read message buffer).state (y.write payload out random).1.state

theorem Abreast.step (h : Abreast a b) (commutes : K.Commutes) {payload out message buffer : Bytes}
    {random : RandomStream} (hwrite : (a.write payload out random).1.result.isOk)
    (hout : (a.write payload out random).1.buffer = out ++ message)
    (hread : (b.read message buffer).result.isOk) :
    Abreast (a.write payload out random).1.state (b.read message buffer).state ∧
      (b.read message buffer).state.done = b.done + 1 := by
  rcases exists_eq_ok_of_isOk hwrite with ⟨channels, hok⟩
  rcases h.exchange commutes hok with ⟨written, hwritten, hreceived⟩
  have hmessage : message = written := List.append_cancel_left (hout.symm.trans hwritten)
  subst hmessage
  cases hreceived buffer with
  | delivered _ _ _ _ hdone habreast _ => exact ⟨habreast, hdone⟩
  | lacking _ _ _ herror =>
    rw [herror] at hread
    cases hread

theorem Driven.abreast {i r x y : Handshake K (DuplexTranscript permute)} {n : Nat}
    (run : Driven i r n x y) (commutes : K.Commutes) (h : Abreast i r) :
    Abreast x y ∧ x.pattern = i.pattern ∧ x.done = i.done + n := by
  induction run with
  | start => exact ⟨h, rfl, rfl⟩
  | @initiator n x y payload out message buffer random _ _ hwrite hout hread ih =>
    have hstep := ih.1.step commutes hwrite hout hread
    have hpattern := (x.attempt_write payload out random).pattern_eq
    refine ⟨hstep.1, hpattern.trans ih.2.1, ?_⟩
    rw [hstep.1.done, hstep.2, ← ih.1.done, ih.2.2]
    rfl
  | @responder n x y payload out message buffer random _ _ hwrite hout hread ih =>
    have hstep := ih.1.symm.step commutes hwrite hout hread
    have hpattern := (x.attempt_read message buffer).pattern_eq
    refine ⟨hstep.1.symm, hpattern.trans ih.2.1, ?_⟩
    rw [hstep.2, ih.2.2]
    rfl

/-- What holds of two sides that were driven through so many steps of a pattern: one has to write
and the other to read until both are finished, and whatever either of them writes is received. -/
structure Converging (pattern : Pattern) (n : Nat)
    (x y : Handshake K (DuplexTranscript permute)) : Prop where
  turns :
    (n < pattern.steps.length ∧
        (x.turn = .write ∧ y.turn = .read ∨ x.turn = .read ∧ y.turn = .write)) ∨
      (n = pattern.steps.length ∧ x.turn = .over ∧ y.turn = .over)
  from_initiator : ∀ payload out random channels,
    (x.write payload out random).1.result = .ok channels →
    ∃ message, (x.write payload out random).1.buffer = out ++ message ∧
      ∀ buffer, Received (x.write payload out random).1.state y payload buffer channels
        (y.read message buffer)
  from_responder : ∀ payload out random channels,
    (y.write payload out random).1.result = .ok channels →
    ∃ message, (y.write payload out random).1.buffer = out ++ message ∧
      ∀ buffer, Received (y.write payload out random).1.state x payload buffer channels
        (x.read message buffer)

/-- Two sides that start for one pattern with one prologue and keys that fit converge, however far
they are driven, if the key agreement commutes. -/
theorem converging_of_driven (commutes : K.Commutes) {ri rr : Registry} {name : String}
    {pattern : Pattern} {prologue : Bytes} {ki kr : Keyring} {ei er : List Event}
    {i r x y : Handshake K (DuplexTranscript permute)} {n : Nat}
    (hi : ri.get name = .ok pattern) (hr : rr.get name = .ok pattern) (hkeys : ki.Partners K kr)
    (starti : start ri name .initiator prologue ki = .ok (i, ei))
    (startr : start rr name .responder prologue kr = .ok (r, er))
    (run : Driven i r n x y) : Converging pattern n x y := by
  have hstart : Abreast i r := abreast_of_start hi hr hkeys starti startr
  rcases exists_of_start starti with ⟨found, _, _, hfound, _, _, hfirst⟩
  have hrun := run.abreast commutes hstart
  have hpattern : x.pattern = pattern := by
    rw [hrun.2.1, hfirst]
    exact Except.ok.inj (hfound.symm.trans hi)
  have hdone : x.done = n := by
    rw [hrun.2.2, hfirst]
    exact Nat.zero_add n
  have habreast : Abreast x y := hrun.1
  refine ⟨?_, ?_, ?_⟩
  · rw [← hpattern, ← hdone]
    exact habreast.turns
  · intro payload out random channels hok
    exact habreast.exchange commutes hok
  · intro payload out random channels hok
    exact habreast.symm.exchange commutes hok

/-- Two messages between sides that know each other's static keys. -/
def acquainted : Pattern where
  name := "acquainted"
  initiatorPre := [.send .static]
  responderPre := [.send .static]
  steps := [⟨.toResponder, [.send .ephemeral]⟩, ⟨.toInitiator, [.mix .static .static]⟩]
  initiatorPre_static := by simp
  responderPre_static := by simp
  steps_ne_nil := by simp
  tokens_ne_nil := by simp

/-- Two sides that know each other are driven through one step, with an agreement that gives their
two keys the secret that X25519 gives them. -/
theorem converging_of_driven_acquainted :
    let a : SecretKey := ⟨Vector.replicate keyLength 1⟩
    let b : SecretKey := ⟨Vector.replicate keyLength 2⟩
    let K := x25519.between a b
    let ki : Keyring := { ownStatic := some (K.keyPair a), peerStatic := some (K.publicKey b) }
    let kr : Keyring := { ownStatic := some (K.keyPair b), peerStatic := some (K.publicKey a) }
    let registry : Registry := ⟨[acquainted], by simp⟩
    K.combine a (K.publicKey b) = x25519.combine a (x25519.publicKey b) ∧
      K.combine b (K.publicKey a) = x25519.combine b (x25519.publicKey a) ∧
      ∃ (i r x y : Handshake K (DuplexTranscript Keccak.permute)) (ei er : List Event),
        start registry "acquainted" .initiator [1] ki = .ok (i, ei) ∧
          start registry "acquainted" .responder [1] kr = .ok (r, er) ∧
          Driven i r 1 x y ∧ Converging acquainted 1 x y := by
  intro a b K ki kr registry
  have hleft : K.combine a (K.publicKey b) = x25519.combine a (x25519.publicKey b) :=
    x25519.between_combine_left a b
  have hright : K.combine b (K.publicKey a) = x25519.combine b (x25519.publicKey a) := by
    have hagree : x25519.combine a (x25519.publicKey b) = x25519.combine b (x25519.publicKey a) := by
      decide +kernel
    exact (x25519.between_combine_right a b).trans hagree
  have commutes : K.Commutes := x25519.between_commutes a b
  refine ⟨hleft, hright, ?_⟩
  clear hleft hright
  -- The keys themselves do not matter from here on.
  clear_value a b K
  have hkeys : ki.Partners K kr := Keyring.partners_acquainted K a b
  have hget : registry.get "acquainted" = .ok acquainted := rfl
  obtain ⟨i, t, ei, hi, hfirst⟩ := exists_start_acquainted K Keccak.permute hget .initiator [1] a b
  obtain ⟨r, u, er, hr, hsecond⟩ := exists_start_acquainted K Keccak.permute hget .responder [1] b a
  have hstart := converging_of_driven commutes hget hget hkeys hi hr .start
  have hwrite : (i.write [7] [] (.cyclic [1])).1.result = .ok none := by
    rw [hfirst]
    rfl
  rcases hstart.from_initiator [7] [] (.cyclic [1]) none hwrite with ⟨message, hout, hreceived⟩
  have hturn : i.turn = .write := by
    rw [hfirst]
    rfl
  cases hreceived [] with
  | delivered theirs hread _ _ _ _ _ =>
    have hrun := Driven.initiator [7] [] message [] (.cyclic [1]) (.start : Driven i r 0 i r) hturn
      (by rw [hwrite]; rfl) hout (by rw [hread]; rfl)
    exact ⟨i, r, _, _, ei, er, hi, hr, hrun, converging_of_driven commutes hget hget hkeys hi hr hrun⟩
  | lacking step initiator responder _ _ _ hstep hmem _ =>
    -- The first step has no secret.
    rw [hsecond] at hstep
    cases hstep
    cases hmem with
    | tail _ hnone => cases hnone

end Handshake

end DuplexHandshake
