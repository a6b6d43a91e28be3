import DuplexHandshake.Key.Agreement
import DuplexHandshake.Pattern.Token
import DuplexHandshake.Role

/-!
# The keys of a party

A party has room for four keys: its own two pairs, and the two public keys of its peer. A place may
be empty; a token that needs it then fails.
-/

namespace DuplexHandshake

/-- The keys that a party knows. -/
structure Keyring where
  ownStatic : Option KeyPair := none
  ownEphemeral : Option KeyPair := none
  peerStatic : Option PublicKey := none
  peerEphemeral : Option PublicKey := none
  deriving DecidableEq

namespace Keyring

def own (k : Keyring) : KeyKind → Option KeyPair
  | .static => k.ownStatic
  | .ephemeral => k.ownEphemeral

def peer (k : Keyring) : KeyKind → Option PublicKey
  | .static => k.peerStatic
  | .ephemeral => k.peerEphemeral

/-- The secret shared by the initiator's and the responder's key of the given kinds, as a party of
this role computes it: from its own pair and the other's public key. -/
def sharedSecret (K : KeyAgreement) (k : Keyring) (role : Role) (initiator responder : KeyKind) :
    Except HandshakeError SharedSecret :=
  match k.own (role.select initiator responder), k.peer (role.select responder initiator) with
  | some pair, some key => K.sharedSecret pair key
  | _, _ => .error .missingKeyMaterial

/-- The static public key of a side, as far as a party of this role knows it. -/
def staticKey (k : Keyring) (role owner : Role) : Except HandshakeError PublicKey :=
  let key? := if role = owner then k.ownStatic.map KeyPair.publicKey else k.peerStatic
  match key? with
  | some key => .ok key
  | none => .error .missingKeyMaterial

end Keyring

end DuplexHandshake
