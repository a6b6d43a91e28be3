import DuplexHandshake.Key.Agreement

/-!
# Randomness

A source of randomness is an endless sequence of bytes and a place in it. Whoever draws moves on, so
that nobody meets the same place twice.
-/

namespace DuplexHandshake

/-- An endless sequence of bytes, read up to a position. -/
structure RandomStream where
  byte : Nat → UInt8
  position : Nat

namespace RandomStream

/-- The sequence that repeats the given bytes; zeros if there are none. -/
def cyclic (data : Bytes) : RandomStream where
  byte i := data.getD (i % data.length) 0
  position := 0

/-- The next bytes, as many as a secret key has. -/
def nextKey (r : RandomStream) : SecretKey :=
  ⟨Vector.ofFn fun i => r.byte (r.position + i.val)⟩

def drawKey (r : RandomStream) : SecretKey × RandomStream :=
  (r.nextKey, { r with position := r.position + keyLength })

end RandomStream

namespace KeyAgreement

/-- Draws so many key pairs, one after another. -/
def drawPairs (K : KeyAgreement) : Nat → RandomStream → List KeyPair × RandomStream
  | 0, r => ([], r)
  | n + 1, r =>
    let (secret, r) := r.drawKey
    let (pairs, r) := drawPairs K n r
    (K.keyPair secret :: pairs, r)

end KeyAgreement

end DuplexHandshake
