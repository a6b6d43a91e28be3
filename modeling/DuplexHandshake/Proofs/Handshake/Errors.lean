import DuplexHandshake.Proofs.Handshake.LifeCycle
import DuplexHandshake.Proofs.Handshake.Reach
import DuplexHandshake.Proofs.Handshake.Start
import Mathlib.Data.List.Nodup

/-!
# The errors of a handshake

Of the ten errors that there are, each worded in its own way, two can come of a start over a duplex
transcript, and five of what follows. An error says what it is about: a start fails for want of a pattern or of
a key, and a bad key is one that gives zeros at a token that was reached.
-/

namespace DuplexHandshake

namespace HandshakeError

theorem mem_all (e : HandshakeError) : e ∈ all := by
  cases e <;> decide

/-- No two errors are worded alike, so whoever reads the text of one knows which it is. -/
theorem message_inj {e e' : HandshakeError} : e.message = e'.message ↔ e = e' := by
  have hdistinct : (all.map message).Nodup := by decide
  constructor
  · exact List.inj_on_of_nodup_map hdistinct (mem_all e) (mem_all e')
  · exact congrArg message

end HandshakeError

/-- The errors of a write. -/
def writeErrors : List HandshakeError :=
  [.alreadyComplete, .missingKeyMaterial, .badKey]

/-- The errors of a read: it may fail for a write's reasons, and for what is in the message. -/
def readErrors : List HandshakeError :=
  writeErrors ++ [.malformedMessage, .authenticationFailure]

namespace Handshake

section

variable {K : KeyAgreement} {T : Type} [Transcript T]

theorem messageLength_error {h : Handshake K T} {payload : Nat} {e : HandshakeError}
    (herror : h.messageLength payload = .error e) : e = .alreadyComplete := by
  unfold messageLength at herror
  split at herror
  · cases herror
  · exact (Except.error.inj herror).symm

theorem write_error_mem {h : Handshake K T} {payload buffer : Bytes} {random : RandomStream}
    {e : HandshakeError} (herror : (h.write payload buffer random).1.result = .error e) :
    e ∈ writeErrors := by
  cases unwritten_of_error herror with
  | ended he => rw [he]; decide
  | stopped step t stopped he hstep ht hw =>
    rw [← he]
    rcases Writer.tokens_error hw with hkey | hkey <;> rw [hkey] <;> decide

/-- A read has no other errors than these where the transcript refuses what is not authentic, and that alone. -/
theorem read_error_mem (honest : ∀ e, RefusalOf T e → e = .authenticationFailure) {h : Handshake K T}
    {message buffer : Bytes} {e : HandshakeError}
    (herror : (h.read message buffer).result = .error e) : e ∈ readErrors := by
  have hrefused : ∀ e', RefusalOf T e' → e' ∈ readErrors := by
    intro e' hrefusal
    rw [honest e' hrefusal]
    decide
  cases unread_of_error herror with
  | ended he => rw [he]; decide
  | short step he => rw [he]; decide
  | stopped step t stopped he hstep hlong ht hr =>
    rw [← he]
    rcases Reader.tokens_error hr with (hkind | hkind | hkind) | hrefusal
    · rw [hkind]; decide
    · rw [hkind]; decide
    · rw [hkind]; decide
    · exact hrefused _ hrefusal
  | refused hrefusal => exact hrefused e hrefusal

end

variable {K : KeyAgreement} {permute : Block → Block}

/-- The ways in which a handshake can fail from here on. -/
structure Closed (h : Handshake K (DuplexTranscript permute)) : Prop where
  messageLength : ∀ payload e, h.messageLength payload = .error e → e = .alreadyComplete
  write : ∀ payload buffer random e,
    (h.write payload buffer random).1.result = .error e → e ∈ writeErrors
  read : ∀ message buffer e, (h.read message buffer).result = .error e → e ∈ readErrors
  /-- A bad key is one that gives a secret of zeros, with the keys in hand at a token that was reached. -/
  write_badKey_iff : ∀ payload buffer random,
    (h.write payload buffer random).1.result = .error .badKey ↔
      ∃ token w, h.WriteReaches random token w ∧ w.keys.weak K h.role token
  read_badKey_iff : ∀ message buffer,
    (h.read message buffer).result = .error .badKey ↔
      ∃ token r, h.ReadReaches message token r ∧ r.keys.weak K h.role token

/-- Whatever state a handshake is in, it can fail in these ways only. -/
theorem closed (h : Handshake K (DuplexTranscript permute)) : h.Closed where
  messageLength _ _ := messageLength_error
  write _ _ _ _ := write_error_mem
  read _ _ _ := read_error_mem fun _ ⟨_, _, _, hrefused⟩ => DuplexTranscript.error_of_decrypt hrefused
  write_badKey_iff := h.write_eq_badKey_iff
  read_badKey_iff := h.read_eq_badKey_iff DuplexTranscript.sized (not_refusalOf_duplexTranscript (by decide))

/-- What can come of a handshake for a name, from its start on, where these patterns are known in this
order. -/
structure Foreseen (K : KeyAgreement) (permute : Block → Block) (registry : Registry)
    (known : List Pattern) (name : String) : Prop where
  started : ∀ role prologue keys, StartDecided known name role prologue keys
    (start registry name role prologue keys :
      Except HandshakeError (Handshake K (DuplexTranscript permute) × List Event))
  assembled : ∀ role pieces,
    StartDecided known name role (Setup.prologueOf pieces) (Setup.keysOf pieces)
      ((Setup.assemble registry name pieces).start role :
        Except HandshakeError (Handshake K (DuplexTranscript permute) × List Event))
  /-- No token of a pre-message is refused. -/
  preMessage : ∀ (p : Pattern) keys role owner (t : DuplexTranscript permute),
    mixPreMessageChecked keys role owner t (p.pre owner) =
      mixPreMessage keys role owner t (p.pre owner)
  closed : ∀ role prologue keys (h : Handshake K (DuplexTranscript permute)) events calls,
    start registry name role prologue keys = .ok (h, events) → (h.after calls).Closed

/-- What can come of a handshake is known for any name, and whatever patterns were handed to the registry,
those under a name that was taken included. -/
theorem errors_of_start_and_calls (K : KeyAgreement) (permute : Block → Block) (base : Registry) (ps : List Pattern)
    (name : String) : Foreseen K permute (base.addAll ps) (base.patterns ++ ps) name where
  started := startDecided (base.find?_addAll ps name)
  assembled role pieces := by
    rw [Setup.assemble_eq]
    exact startDecided (base.find?_addAll ps name) role _ _
  preMessage p keys role owner := mixPreMessageChecked_pre keys p role owner
  closed _ _ _ h _ calls _ := (h.after calls).closed

end Handshake

end DuplexHandshake
