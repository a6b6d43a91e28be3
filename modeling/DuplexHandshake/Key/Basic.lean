import DuplexHandshake.Bytes
import DuplexHandshake.Error

/-!
# Keys

Secret keys, public keys and shared secrets are strings of 32 bytes, each of a type of its own.
-/

namespace DuplexHandshake

/-- The length of keys and of shared secrets, in bytes. -/
abbrev keyLength : Nat := 32

abbrev KeyBytes := Vector UInt8 keyLength

/-- The given bytes as those of a key, if there are as many as a key has. -/
def KeyBytes.ofBytes? (data : Bytes) : Option KeyBytes :=
  if h : data.length = keyLength then some ⟨data.toArray, by simpa using h⟩ else none

theorem KeyBytes.ofBytes?_toList (k : KeyBytes) : KeyBytes.ofBytes? k.toList = some k := by
  simp [ofBytes?, Vector.toList]

theorem KeyBytes.toList_of_ofBytes? {data : Bytes} {k : KeyBytes}
    (h : KeyBytes.ofBytes? data = some k) : k.toList = data := by
  unfold ofBytes? at h
  split at h
  · cases h
    simp [Vector.toList]
  · cases h

structure SecretKey where
  bytes : KeyBytes
  deriving DecidableEq

structure PublicKey where
  bytes : KeyBytes
  deriving DecidableEq

namespace PublicKey

def toBytes (k : PublicKey) : Bytes :=
  k.bytes.toList

/-- Reads a public key, which any 32 bytes are. -/
def ofBytes (data : Bytes) : Except HandshakeError PublicKey :=
  match KeyBytes.ofBytes? data with
  | some bytes => .ok ⟨bytes⟩
  | none => .error .badKey

@[simp]
theorem length_toBytes (k : PublicKey) : k.toBytes.length = keyLength := by
  simp [toBytes]

theorem ofBytes_toBytes (k : PublicKey) : ofBytes k.toBytes = .ok k := by
  simp [ofBytes, toBytes, KeyBytes.ofBytes?_toList]

end PublicKey

structure SharedSecret where
  bytes : KeyBytes
  deriving DecidableEq

/-- A secret key and a public key that is meant to go with it. -/
structure KeyPair where
  secret : SecretKey
  publicKey : PublicKey
  deriving DecidableEq

end DuplexHandshake
