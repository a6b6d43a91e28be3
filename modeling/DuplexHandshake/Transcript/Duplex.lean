import DuplexHandshake.Strobe.Duplex
import DuplexHandshake.Transcript.Basic

/-!
# The transcript over a duplex

Sealing enciphers the text, takes in the associated data and draws a tag; opening does the same from
the other side and compares the tags. Tags have 16 or 32 bytes.
-/

namespace DuplexHandshake

open Strobe (Duplex)

/-- The lengths that tags can have. -/
inductive TagLength where
  | standard
  | long
  deriving DecidableEq

namespace TagLength

def bytes : TagLength → Nat
  | standard => 16
  | long => 32

/-- The tag length with that number of bytes, if there is one. -/
def ofBytes? : Nat → Option TagLength
  | 16 => some standard
  | 32 => some long
  | _ => none

end TagLength

/-- A transcript kept by a duplex over the permutation `permute`. -/
structure DuplexTranscript (permute : Block → Block) where
  duplex : Duplex permute
  tag : TagLength
  deriving DecidableEq

namespace DuplexTranscript

variable {permute : Block → Block}

def setTagLength (t : DuplexTranscript permute) (length : Nat) :
    Except HandshakeError Unit × DuplexTranscript permute :=
  match TagLength.ofBytes? length with
  | some tag => (.ok (), { t with tag })
  | none => (.error .unsupportedTagLength, t)

/-- Enciphers a text and draws a tag over it and the associated data. -/
def encrypt (t : DuplexTranscript permute) (text associated : Bytes) :
    Bytes × DuplexTranscript permute :=
  let (body, d) := t.duplex.sendEncrypted text
  let (tag, d) := (d.mixData associated).sendMac t.tag.bytes
  (body ++ tag, { t with duplex := d })

/-- Deciphers a sealed segment. One that is too short to hold a tag is refused untouched; any other
has been taken in by the time its tag is found wrong. -/
def decrypt (t : DuplexTranscript permute) (sealed associated : Bytes) :
    Except HandshakeError Bytes × DuplexTranscript permute :=
  if sealed.length < t.tag.bytes then (.error .authenticationFailure, t)
  else
    let (body, tag) := sealed.splitAt (sealed.length - t.tag.bytes)
    let (text, d) := t.duplex.receiveEncrypted body
    let (genuine, d) := (d.mixData associated).receiveMac tag
    -- The state moves on whether or not the tag was right.
    (if genuine then .ok text else .error .authenticationFailure, { t with duplex := d })

instance : Transcript (DuplexTranscript permute) where
  ratchetLength := Strobe.rate
  start label := { duplex := .start label, tag := .standard }
  setTagLength := setTagLength
  tagLength t := t.tag.bytes
  mixData t data := { t with duplex := t.duplex.mixData data }
  mixMetadata t data := { t with duplex := t.duplex.mixMetadata data }
  sendClear t data := { t with duplex := t.duplex.sendClear data }
  receiveClear t data := { t with duplex := t.duplex.receiveClear data }
  encrypt := encrypt
  decrypt := decrypt
  mixKey t secret := { t with duplex := t.duplex.mixKey secret }
  ratchet t n := { t with duplex := t.duplex.ratchet n }
  prf t n :=
    let (out, d) := t.duplex.prf n
    (out, { t with duplex := d })

end DuplexTranscript

/-- The transcript over Keccak-f[1600]. -/
abbrev Strobe128 := DuplexTranscript Keccak.permute

end DuplexHandshake
