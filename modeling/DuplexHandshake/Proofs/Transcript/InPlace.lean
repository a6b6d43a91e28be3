import DuplexHandshake.Proofs.Transcript.Lockstep

/-!
# Sealing and opening in a buffer

A caller hands over a buffer, and the work is done at its end: a text is enciphered where it stands
and followed by its tag; a body is deciphered where it stands and cut off again if the tag behind it
is wrong. What comes of it is the old contents, followed by what sealing or opening gives.
-/

namespace DuplexHandshake.DuplexTranscript

variable {permute : Block → Block}

/-- Appends a text to a buffer, enciphers it there, and appends the tag. -/
def encryptInPlace (t : DuplexTranscript permute) (text associated buffer : Bytes) :
    Bytes × DuplexTranscript permute :=
  let start := buffer.length
  let out := buffer ++ text
  let (body, d) := t.duplex.sendEncrypted (out.drop start)
  let out := out.take start ++ body
  let (tag, d) := (d.mixData associated).sendMac t.tag.bytes
  (out ++ tag, { t with duplex := d })

/-- Appends the body of a segment to a buffer, deciphers it there, and cuts it off again if the tag
turns out to be wrong. -/
def decryptInPlace (t : DuplexTranscript permute) (sealed associated buffer : Bytes) :
    Except HandshakeError Unit × Bytes × DuplexTranscript permute :=
  if sealed.length < t.tag.bytes then (.error .authenticationFailure, buffer, t)
  else
    let (body, tag) := sealed.splitAt (sealed.length - t.tag.bytes)
    let start := buffer.length
    let out := buffer ++ body
    let (text, d) := t.duplex.receiveEncrypted (out.drop start)
    let out := out.take start ++ text
    let (genuine, d) := (d.mixData associated).receiveMac tag
    if genuine then (.ok (), out, { t with duplex := d })
    else (.error .authenticationFailure, out.take start, { t with duplex := d })

theorem encryptInPlace_eq (t : DuplexTranscript permute) (text associated buffer : Bytes) :
    t.encryptInPlace text associated buffer = Transcript.encryptInto t text associated buffer := by
  simp only [encryptInPlace, List.drop_left, List.take_left, List.append_assoc]
  rfl

theorem decryptInPlace_eq (t : DuplexTranscript permute) (sealed associated buffer : Bytes) :
    t.decryptInPlace sealed associated buffer =
      Transcript.decryptInto t sealed associated buffer := by
  have hdecrypt : Transcript.decrypt t sealed associated = t.decrypt sealed associated := rfl
  unfold decryptInPlace Transcript.decryptInto
  rw [hdecrypt, decrypt]
  by_cases hshort : sealed.length < t.tag.bytes
  · rw [if_pos hshort, if_pos hshort]
  · simp only [if_neg hshort, List.drop_left, List.take_left]
    split <;> rfl

end DuplexHandshake.DuplexTranscript
