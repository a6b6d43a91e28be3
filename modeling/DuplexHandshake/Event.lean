import DuplexHandshake.Role

/-!
# Events

What the library reports about its work while it does it. An event carries names, roles, counts and
lengths only.
-/

namespace DuplexHandshake

inductive Event.Level where
  | trace
  | debug
  | warning
  deriving DecidableEq

/-- Something worth reporting. -/
inductive Event where
  | registered (pattern : String)
  | started (pattern : String) (role : Role)
  /-- The step with this index was written: its number of tokens, and the bytes of the message. -/
  | wrote (step tokens length : Nat)
  /-- The step with this index was read: its number of tokens, and the bytes of the message. -/
  | read (step tokens length : Nat)
  /-- The last step is done, and the transcript becomes two channels. -/
  | split (pattern : String) (role : Role)
  /-- The sealed static key of the peer did not authenticate. -/
  | staticKeyRejected
  | payloadRejected
  deriving DecidableEq

namespace Event

def level : Event → Level
  | registered .. | started .. | split .. => .debug
  | wrote .. | read .. => .trace
  | staticKeyRejected | payloadRejected => .warning

def message : Event → String
  | registered .. => "registered handshake pattern"
  | started .. => "handshake initialized"
  | wrote .. => "wrote handshake message"
  | read .. => "read handshake message"
  | split .. => "handshake complete, splitting transcript"
  | staticKeyRejected => "remote static key failed authentication"
  | payloadRejected => "handshake payload failed authentication"

end Event

end DuplexHandshake
