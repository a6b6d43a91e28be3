import DuplexHandshake.Proofs.Handshake.LifeCycle
import DuplexHandshake.Proofs.Strobe.Ratchet
import DuplexHandshake.Proofs.Transcript.Uses

/-!
# What the channels keep of a handshake

A channel is made from a finished transcript by a ratchet over the whole rate. Nothing that stood in the
166 bytes that meet data when the ratchet was announced is left in it, so no answer of the channel can
depend on them. The transcript that is left is a function of the 34 bytes behind the rate, the mark of
direction and the tag length, and of nothing else.
-/

namespace DuplexHandshake

open Strobe (Duplex)

namespace DuplexTranscript

variable {permute : Block → Block}

/-! ## One ratchet -/

/-- The duplex of a transcript when a ratchet has been announced and has overwritten nothing yet. -/
def announced (t : DuplexTranscript permute) : Duplex permute :=
  t.duplex.announce .ratchet

/-- What a ratchet over the whole rate makes of a transcript, if `d` is its duplex once the ratchet has
been announced. -/
def ratchetFrom (t : DuplexTranscript permute) (d : Duplex permute) : DuplexTranscript permute :=
  { t with duplex := (d.run .input (List.replicate Strobe.rate 0)).2 }

/-- The transcript `u` is what a ratchet leaves of `t`, and has nothing of the rate in it. -/
structure RateErased (t u : DuplexTranscript permute) : Prop where
  /-- The permutation has just run, and on nothing but the bytes behind the rate. -/
  eq_permute : u =
    { duplex :=
        { block := permute (Strobe.spent (Strobe.hidden t.announced.block))
          pos := 0
          opened := 0
          receiver := t.duplex.receiver }
      tag := t.tag }
  /-- Whatever had stood in the rate, the ratchet would have ended with the same transcript, and no use
  of it tells the difference. -/
  blind : ∀ b, Strobe.hidden b = Strobe.hidden t.announced.block →
    t.ratchetFrom { t.announced with block := b } = u ∧
      ∀ uses, Use.answers (t.ratchetFrom { t.announced with block := b }) uses = Use.answers u uses
  /-- The bytes behind the rate, the direction and the tag length do matter: where no two blocks have one
  image under the permutation, transcripts that differ in them stay apart. -/
  eq_iff : Function.Injective permute → ∀ t' : DuplexTranscript permute,
    Transcript.ratchet t' (Transcript.ratchetLength (DuplexTranscript permute)) = u ↔
      Strobe.hidden t'.announced.block = Strobe.hidden t.announced.block ∧
        t'.duplex.receiver = t.duplex.receiver ∧ t'.tag = t.tag

theorem ratchet_eq (t : DuplexTranscript permute) (n : Nat) :
    Transcript.ratchet t n = { t with duplex := t.duplex.ratchet n } :=
  rfl

theorem ratchet_eq_ratchetFrom (t : DuplexTranscript permute) :
    Transcript.ratchet t (Transcript.ratchetLength (DuplexTranscript permute)) =
      t.ratchetFrom t.announced := by
  rw [ratchet_eq, ratchetFrom, announced, Duplex.ratchet, Duplex.putData]
  rfl

theorem ratchet_eq_permute (t : DuplexTranscript permute) :
    Transcript.ratchet t (Transcript.ratchetLength (DuplexTranscript permute)) =
      { duplex :=
          { block := permute (Strobe.spent (Strobe.hidden t.announced.block))
            pos := 0
            opened := 0
            receiver := t.duplex.receiver }
        tag := t.tag } := by
  rw [ratchet_eq]
  exact congrArg (DuplexTranscript.mk · t.tag) t.duplex.ratchet_rate

theorem ratchetFrom_eq (t : DuplexTranscript permute) {d : Duplex permute} (hpos : d.pos = 0)
    (hopened : d.opened = 0) :
    t.ratchetFrom d =
      { t with
        duplex :=
          { d with block := permute (Strobe.spent (Strobe.hidden d.block)), pos := 0, opened := 0 } } := by
  rw [ratchetFrom, Duplex.run_zeros hpos hopened]

theorem ratchetFrom_of_hidden (t : DuplexTranscript permute) {b : Block}
    (h : Strobe.hidden b = Strobe.hidden t.announced.block) :
    t.ratchetFrom { t.announced with block := b } =
      Transcript.ratchet t (Transcript.ratchetLength (DuplexTranscript permute)) := by
  have hfront : t.announced.pos = 0 ∧ t.announced.opened = 0 := Duplex.announce_of_cipher rfl
  let other : Duplex permute := { t.announced with block := b }
  have hother : other.pos = 0 ∧ other.opened = 0 := hfront
  rw [ratchet_eq_ratchetFrom, t.ratchetFrom_eq hfront.1 hfront.2, t.ratchetFrom_eq hother.1 hother.2]
  dsimp only [other]
  rw [h]

theorem ratchet_eq_ratchet_iff (injective : Function.Injective permute)
    (t t' : DuplexTranscript permute) :
    Transcript.ratchet t' (Transcript.ratchetLength (DuplexTranscript permute)) =
        Transcript.ratchet t (Transcript.ratchetLength (DuplexTranscript permute)) ↔
      Strobe.hidden t'.announced.block = Strobe.hidden t.announced.block ∧
        t'.duplex.receiver = t.duplex.receiver ∧ t'.tag = t.tag := by
  rw [ratchet_eq_permute, ratchet_eq_permute, DuplexTranscript.mk.injEq, Duplex.mk.injEq]
  constructor
  · rintro ⟨⟨hblock, -, -, hreceiver⟩, htag⟩
    exact ⟨Strobe.eq_of_spent (injective hblock), hreceiver, htag⟩
  · rintro ⟨hhidden, hreceiver, htag⟩
    rw [hhidden]
    exact ⟨⟨rfl, rfl, rfl, hreceiver⟩, htag⟩

/-- Every ratchet over the whole rate erases it, wherever in a block it is announced. -/
theorem rateErased_ratchet (t : DuplexTranscript permute) :
    t.RateErased (Transcript.ratchet t (Transcript.ratchetLength (DuplexTranscript permute))) where
  eq_permute := t.ratchet_eq_permute
  blind b h := by
    rw [t.ratchetFrom_of_hidden h]
    exact ⟨rfl, fun _ => rfl⟩
  eq_iff injective t' := ratchet_eq_ratchet_iff injective t t'

end DuplexTranscript

/-! ## The two channels -/

namespace Handshake

variable {K : KeyAgreement} {T : Type} [Transcript T] {h : Handshake K T} {call : Call}

/-- The transcript `u` is what the step of a call leaves: the tokens have been gone through, and after them
the payload has been sealed or opened. -/
inductive Leaves (h : Handshake K T) : Call → (u : T) → Prop where
  | write {step : Step} {t : T} {w : Writer T} (payload buffer : Bytes) {random : RandomStream} :
      h.step? = some step → h.transcript = some t →
      Writer.tokens K h.role { transcript := t, keys := h.keys, random, message := [] } step.tokens =
        .ok w →
      Leaves h (.write payload buffer random) (Transcript.encrypt w.transcript payload []).2
  | read {step : Step} {t : T} {r : Reader T} {message payload : Bytes} (buffer : Bytes) :
      h.step? = some step → h.transcript = some t →
      Reader.tokens K h.role h.tagLength { transcript := t, keys := h.keys, rest := message }
        step.tokens = .ok r →
      (Transcript.decrypt r.transcript r.rest []).1 = .ok payload →
      Leaves h (.read message buffer) (Transcript.decrypt r.transcript r.rest []).2

/-- A success ends the step with the transcript that it leaves. -/
theorem exists_leaves_of_ok {channels : Option (Channels T)}
    (hok : (h.perform call).result = .ok channels) :
    ∃ u keys buffer report, h.Leaves call u ∧
      h.perform call = (h.holding u keys).finishStep buffer report := by
  cases call with
  | write payload buffer random =>
    obtain ⟨step, t, w, hstep, ht, hw, hwrite⟩ := write_of_ok hok
    exact ⟨_, _, _, _, .write payload buffer hstep ht hw, hwrite⟩
  | read message buffer =>
    obtain ⟨step, t, r, payload, hstep, ht, _, hr, hopen, hread⟩ := read_of_ok hok
    exact ⟨_, _, _, _, .read buffer hstep ht hr hopen, hread⟩

/-- The channels that a call gives out come from the transcript that its step, the last one, leaves. -/
theorem exists_leaves_ofTranscript {channels : Channels T}
    (hok : (h.perform call).result = .ok (some channels)) :
    ∃ u, h.Leaves call u ∧ channels = .ofTranscript u := by
  obtain ⟨u, keys, buffer, report, hleaves, hperform⟩ := exists_leaves_of_ok hok
  rw [hperform, finishStep_eq] at hok
  split at hok
  · cases hok
  · cases hok
    exact ⟨u, hleaves, rfl⟩

end Handshake

/-- What ratchets erase: the whole rate, in a transcript of any kind and in both channels of every
handshake that comes to its end. -/
structure Erasing (K : KeyAgreement) (permute : Block → Block) : Prop where
  ratchet : ∀ t : DuplexTranscript permute,
    t.RateErased (Transcript.ratchet t (Transcript.ratchetLength (DuplexTranscript permute)))
  /-- The channels come from the transcript that the last step leaves, without its rate. -/
  channels : ∀ (h : Handshake K (DuplexTranscript permute)) call channels,
    (h.perform call).result = .ok (some channels) →
      ∃ t, h.Leaves call t ∧ channels = .ofTranscript t ∧
        (Transcript.mixMetadata t (Bytes.ofText "initiator")).RateErased
          channels.toResponder.transcript ∧
        (Transcript.mixMetadata t (Bytes.ofText "responder")).RateErased
          channels.toInitiator.transcript

/-- Every ratchet of a transcript erases the whole rate, and so neither channel keeps any of what stood
there at the end of the handshake. -/
theorem ratchets_erase_rate (K : KeyAgreement) (permute : Block → Block) : Erasing K permute where
  ratchet := DuplexTranscript.rateErased_ratchet
  channels h call channels hok := by
    obtain ⟨t, hleaves, rfl⟩ := Handshake.exists_leaves_ofTranscript hok
    exact ⟨t, hleaves, rfl, DuplexTranscript.rateErased_ratchet _, DuplexTranscript.rateErased_ratchet _⟩

end DuplexHandshake
