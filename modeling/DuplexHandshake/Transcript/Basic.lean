import DuplexHandshake.Bytes
import DuplexHandshake.Error

/-!
# Transcripts

A transcript takes in everything that two peers say and know, and lends its state to encryption.
Two transcripts that were started alike and took in the same data stay alike; where they differ, a
sealed segment of one is no segment of the other.

An operation that gives something back returns it beside the state that follows. An operation that
can be refused also leaves a state behind when it is: a refused opening may well have changed it.
-/

namespace DuplexHandshake

/-- What a handshake asks of its transcript. -/
class Transcript (T : Type) where
  /-- How many bytes are erased when a finished transcript becomes a channel. -/
  ratchetLength : Nat
  /-- A transcript separated from all others by its label. -/
  start : Bytes → T
  /-- Chooses the length of the tags from now on; a refused choice keeps the old one. -/
  setTagLength : T → Nat → Except HandshakeError Unit × T
  tagLength : T → Nat
  /-- Takes in data that both sides know. -/
  mixData : T → Bytes → T
  /-- Takes in a description that both sides know. -/
  mixMetadata : T → Bytes → T := mixData
  sendClear : T → Bytes → T
  receiveClear : T → Bytes → T
  /-- Enciphers a text and adds the tag, which also vouches for the associated data. -/
  encrypt : T → (text associated : Bytes) → Bytes × T
  /-- Deciphers what `encrypt` gave, if the tag vouches for it. -/
  decrypt : T → (sealed associated : Bytes) → Except HandshakeError Bytes × T
  mixKey : T → Bytes → T
  /-- Erases so many bytes of the state for good. -/
  ratchet : T → Nat → T
  prf : T → Nat → Bytes × T

namespace Transcript

variable {T : Type} [Transcript T]

/-- Seals a text and appends the result to a buffer. -/
def encryptInto (t : T) (text associated buffer : Bytes) : Bytes × T :=
  let (sealed, t) := encrypt t text associated
  (buffer ++ sealed, t)

/-- Opens a sealed segment and appends the text to a buffer, which a refusal leaves as it is. -/
def decryptInto (t : T) (sealed associated buffer : Bytes) :
    Except HandshakeError Unit × Bytes × T :=
  match decrypt t sealed associated with
  | (.ok text, t) => (.ok (), buffer ++ text, t)
  | (.error e, t) => (.error e, buffer, t)

end Transcript

end DuplexHandshake
