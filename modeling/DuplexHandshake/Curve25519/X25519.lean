import DuplexHandshake.Curve25519.Ladder
import DuplexHandshake.Key.Agreement

/-!
# X25519

The key agreement on Curve25519. Numbers are written in 32 bytes, the low byte first. A secret key
becomes a factor with fixed low and high bits; of a public key the top bit is ignored, and a number
that is no least representative stands for the one it is congruent to.
-/

namespace DuplexHandshake.X25519

open Curve25519

def toNat (key : KeyBytes) : Nat :=
  key.toList.foldr (fun b n => n * 256 + b.toNat) 0

def ofNat (n : Nat) : KeyBytes :=
  Vector.ofFn fun i => (n >>> (8 * i.val)).toUInt8

/-- The secret key with the low three bits cleared, the top bit cleared and the one below it set. -/
def clamp (key : KeyBytes) : KeyBytes :=
  (key.set 0 (key[0] &&& 248)).set 31 (key[31] &&& 127 ||| 64)

def factor (secret : SecretKey) : Nat :=
  toNat (clamp secret.bytes)

/-- The coordinate that a public key stands for. -/
def coordinate (key : PublicKey) : Element :=
  -- The top bit is dropped first, and only then the rest reduced.
  Fin.ofNat prime (toNat key.bytes % Nat.pow 2 255)

def combine (secret : SecretKey) (peer : PublicKey) : KeyBytes :=
  ofNat (multiple (factor secret) (coordinate peer)).val

/-- The public key of the point from which all public keys are made. -/
def base : PublicKey :=
  ⟨ofNat 9⟩

end DuplexHandshake.X25519

namespace DuplexHandshake

def x25519 : KeyAgreement where
  publicKey secret := ⟨X25519.combine secret X25519.base⟩
  combine := X25519.combine

end DuplexHandshake
