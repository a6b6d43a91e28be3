import DuplexHandshake.Key.Basic

/-!
# Key agreement

How a public key follows from a secret one, and what a secret key and another party's public key
give, is the matter of a key agreement. Whatever the agreement, a result of zeros is no secret: it
comes from a public key that was chosen to make the secret known.
-/

namespace DuplexHandshake

/-- A way for two parties to agree on a secret. -/
structure KeyAgreement where
  publicKey : SecretKey → PublicKey
  /-- What a secret key and the public key of another party give. -/
  combine : SecretKey → PublicKey → KeyBytes

namespace KeyAgreement

variable (K : KeyAgreement)

def keyPair (secret : SecretKey) : KeyPair :=
  { secret, publicKey := K.publicKey secret }

/-- The secret shared with the owner of a public key. -/
def sharedSecret (pair : KeyPair) (peer : PublicKey) : Except HandshakeError SharedSecret :=
  let bytes := K.combine pair.secret peer
  if bytes = Vector.replicate keyLength 0 then .error .badKey else .ok ⟨bytes⟩

end KeyAgreement

end DuplexHandshake
