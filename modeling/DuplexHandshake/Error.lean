/-!
# Reasons for refusal

Every operation of this library that can be refused gives one of these causes. The wording that a
person reads is a function of the cause, so a proof speaks about the cause alone.
-/

namespace DuplexHandshake

/-- Why an operation on a pattern, a key, a transcript or a handshake was refused. -/
inductive HandshakeError where
  | unknownPattern
  | alreadyComplete
  /-- A text stands where a token should and is none. -/
  | invalidToken
  /-- A token needs a key that the party does not have. -/
  | missingKeyMaterial
  /-- A sealed segment was not produced by a transcript in the same state. -/
  | authenticationFailure
  /-- A message is too short for the tokens of its step. -/
  | malformedMessage
  /-- A public key has the wrong length, or leads to a shared secret of zeros. -/
  | badKey
  /-- A text or a list of parts is no handshake pattern. -/
  | invalidPattern
  | duplicatePattern
  | unsupportedTagLength
  deriving DecidableEq

namespace HandshakeError

/-- All causes, in the order in which they are documented. -/
def all : List HandshakeError :=
  [unknownPattern, alreadyComplete, invalidToken, missingKeyMaterial, authenticationFailure,
    malformedMessage, badKey, invalidPattern, duplicatePattern, unsupportedTagLength]

def message : HandshakeError → String
  | unknownPattern => "unknown handshake pattern"
  | alreadyComplete => "handshake protocol already complete"
  | invalidToken => "invalid handshake token"
  | missingKeyMaterial => "missing key material for handshake token"
  | authenticationFailure => "authentication failure"
  | malformedMessage => "malformed handshake message"
  | badKey => "invalid public key"
  | invalidPattern => "invalid handshake pattern definition"
  | duplicatePattern => "handshake pattern already registered"
  | unsupportedTagLength => "unsupported authentication tag length"

end HandshakeError

end DuplexHandshake
