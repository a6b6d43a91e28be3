import DuplexHandshake.Role
import DuplexHandshake.Transcript.Basic

/-!
# Channels

A finished handshake leaves one transcript on each side, and the two agree. From it come one channel
for each direction of traffic, and a hash by which the two sides can name the handshake. The channels
share no later state.
-/

namespace DuplexHandshake

structure Channel (T : Type) where
  transcript : T
  deriving DecidableEq

structure Channels (T : Type) where
  /-- What the initiator writes and the responder reads. -/
  toResponder : Channel T
  /-- What the responder writes and the initiator reads. -/
  toInitiator : Channel T
  /-- A value that both sides know and that enters neither channel. -/
  handshakeHash : Bytes
  deriving DecidableEq

abbrev handshakeHashLength : Nat := 32

namespace Channel

/-- The channel that a label sets apart, with the state before it erased. -/
def fork {T : Type} [Transcript T] (t : T) (label : String) : Channel T where
  transcript :=
    Transcript.ratchet (Transcript.mixMetadata t (Bytes.ofText label)) (Transcript.ratchetLength T)

end Channel

namespace Channels

variable {T : Type}

def ofTranscript [Transcript T] (t : T) : Channels T where
  toResponder := .fork t "initiator"
  toInitiator := .fork t "responder"
  -- Drawn from the transcript itself, and the state after it is dropped.
  handshakeHash := (Transcript.prf t handshakeHashLength).1

/-- The channel to write on and the channel to read from, for a party of this role. -/
def forRole (c : Channels T) : Role → Channel T × Channel T
  | .initiator => (c.toResponder, c.toInitiator)
  | .responder => (c.toInitiator, c.toResponder)

end Channels

end DuplexHandshake
