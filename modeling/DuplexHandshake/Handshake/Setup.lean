import DuplexHandshake.Handshake.Basic

/-!
# Setting up a handshake

A setup gathers what a handshake starts from, piece by piece and in any order.
-/

namespace DuplexHandshake

/-- What a handshake starts from. -/
structure Setup where
  registry : Registry
  pattern : String
  /-- What both sides agreed on beforehand; it is never sent. -/
  prologue : Bytes := []
  keys : Keyring := {}

namespace Setup

def withPrologue (s : Setup) (prologue : Bytes) : Setup :=
  { s with prologue }

def withOwnStatic (s : Setup) (pair : KeyPair) : Setup :=
  { s with keys := { s.keys with ownStatic := some pair } }

def withOwnEphemeral (s : Setup) (pair : KeyPair) : Setup :=
  { s with keys := { s.keys with ownEphemeral := some pair } }

def withPeerStatic (s : Setup) (key : PublicKey) : Setup :=
  { s with keys := { s.keys with peerStatic := some key } }

def withPeerEphemeral (s : Setup) (key : PublicKey) : Setup :=
  { s with keys := { s.keys with peerEphemeral := some key } }

def start {K : KeyAgreement} {T : Type} [Transcript T] (s : Setup) (role : Role) :
    Except HandshakeError (Handshake K T × List Event) :=
  Handshake.start s.registry s.pattern role s.prologue s.keys

end Setup

end DuplexHandshake
