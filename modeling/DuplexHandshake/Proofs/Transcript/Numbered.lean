import DuplexHandshake.Proofs.Transcript.InPlace
import DuplexHandshake.Proofs.Transcript.Lawful
import DuplexHandshake.Proofs.Transcript.Uses

/-!
# Tag lengths as numbers

A transcript can also keep the length of its tags as a number, and find out at each opening how a tag of
that length is compared. An opening then has more ways to go wrong: there may be no comparison for the
number, or the tag may not have the bytes that the comparison asks for. Used in any way, such a transcript
gives the same answers as one whose tag lengths are of a type of their own.
-/

namespace DuplexHandshake

open Strobe (Duplex)

/-- What comes of a tag. -/
inductive TagVerdict where
  | genuine
  | forged
  /-- The tag does not have the number of bytes that are compared. -/
  | misfit
  /-- Tags of the length in force cannot be compared. -/
  | unsupported
  deriving DecidableEq

/-- A transcript over a duplex that keeps the length of its tags as a number. -/
structure NumberedTranscript (permute : Block → Block) where
  duplex : Duplex permute
  tagLength : Nat

namespace NumberedTranscript

variable {permute : Block → Block}

def setTagLength (t : NumberedTranscript permute) (length : Nat) :
    Except HandshakeError Unit × NumberedTranscript permute :=
  match length with
  | 16 | 32 => (.ok (), { t with tagLength := length })
  | _ => (.error .unsupportedTagLength, t)

def encrypt (t : NumberedTranscript permute) (text associated : Bytes) :
    Bytes × NumberedTranscript permute :=
  let (body, d) := t.duplex.sendEncrypted text
  let (tag, d) := (d.mixData associated).sendMac t.tagLength
  (body ++ tag, { t with duplex := d })

/-- Takes in a tag of `n` bytes; any other does not reach the duplex. -/
def receiveTag (n : Nat) (d : Duplex permute) (tag : Bytes) : TagVerdict × Duplex permute :=
  if tag.length = n then
    let (genuine, d) := d.receiveMac tag
    (if genuine then .genuine else .forged, d)
  else (.misfit, d)

/-- Takes in a tag of the length in force. -/
def verify (t : NumberedTranscript permute) (d : Duplex permute) (tag : Bytes) :
    TagVerdict × Duplex permute :=
  match t.tagLength with
  | 16 => receiveTag 16 d tag
  | 32 => receiveTag 32 d tag
  | _ => (.unsupported, d)

/-- Appends the body of a segment to a buffer, deciphers it there, and cuts it off again unless the tag is
genuine. Why it is not is not told. -/
def decryptInPlace (t : NumberedTranscript permute) (sealed associated buffer : Bytes) :
    Except HandshakeError Unit × Bytes × NumberedTranscript permute :=
  if sealed.length < t.tagLength then (.error .authenticationFailure, buffer, t)
  else
    let (body, tag) := sealed.splitAt (sealed.length - t.tagLength)
    let start := buffer.length
    let out := buffer ++ body
    let (text, d) := t.duplex.receiveEncrypted (out.drop start)
    let out := out.take start ++ text
    let (verdict, d) := t.verify (d.mixData associated) tag
    if verdict = .genuine then (.ok (), out, { t with duplex := d })
    else (.error .authenticationFailure, out.take start, { t with duplex := d })

def decrypt (t : NumberedTranscript permute) (sealed associated : Bytes) :
    Except HandshakeError Bytes × NumberedTranscript permute :=
  let (outcome, text, t) := t.decryptInPlace sealed associated []
  (outcome.map fun _ => text, t)

instance : Transcript (NumberedTranscript permute) where
  ratchetLength := Strobe.rate
  start label := { duplex := .start label, tagLength := 16 }
  setTagLength := setTagLength
  tagLength := tagLength
  mixData t data := { t with duplex := t.duplex.mixData data }
  mixMetadata t data := { t with duplex := t.duplex.mixMetadata data }
  sendClear t data := { t with duplex := t.duplex.sendClear data }
  receiveClear t data := { t with duplex := t.duplex.receiveClear data }
  encrypt := encrypt
  decrypt := decrypt
  mixKey t secret := { t with duplex := t.duplex.mixKey secret }
  ratchet t n := { t with duplex := t.duplex.ratchet n }
  prf t n :=
    let (out, d) := t.duplex.prf n
    (out, { t with duplex := d })

end NumberedTranscript

/-! ## The two forms agree -/

namespace DuplexTranscript

variable {permute : Block → Block}

/-- The same transcript with its tag length as a number. -/
def numbered (t : DuplexTranscript permute) : NumberedTranscript permute :=
  { duplex := t.duplex, tagLength := t.tag.bytes }

@[simp]
theorem numbered_duplex (t : DuplexTranscript permute) : t.numbered.duplex = t.duplex :=
  rfl

@[simp]
theorem numbered_tagLength (t : DuplexTranscript permute) : t.numbered.tagLength = t.tag.bytes :=
  rfl

theorem numbered_start (label : Bytes) :
    (Transcript.start label : DuplexTranscript permute).numbered = Transcript.start label :=
  rfl

theorem setTagLength_numbered (t : DuplexTranscript permute) (length : Nat) :
    t.numbered.setTagLength length =
      ((t.setTagLength length).1, (t.setTagLength length).2.numbered) := by
  unfold NumberedTranscript.setTagLength
  split
  · rfl
  · rfl
  · next h16 h32 =>
    rw [setTagLength, TagLength.ofBytes?.eq_3 length h16 h32]

/-- What is cut off the end of a segment for the tag is as long as it has to be. -/
theorem length_splitAt {sealed : Bytes} {n : Nat} (h : ¬ sealed.length < n) :
    (sealed.splitAt (sealed.length - n)).2.length = n := by
  rw [List.splitAt_eq, List.length_drop]
  omega

/-- A tag of the length in force is compared, and is genuine or forged. -/
theorem verify_numbered (t : DuplexTranscript permute) (d : Duplex permute) {tag : Bytes}
    (htag : tag.length = t.tag.bytes) :
    t.numbered.verify d tag =
      (if (d.receiveMac tag).1 then .genuine else .forged, (d.receiveMac tag).2) := by
  unfold NumberedTranscript.verify numbered
  cases hkind : t.tag with
  | standard =>
    rw [hkind] at htag
    exact if_pos htag
  | long =>
    rw [hkind] at htag
    exact if_pos htag

theorem decryptInPlace_numbered (t : DuplexTranscript permute) (sealed associated buffer : Bytes) :
    t.numbered.decryptInPlace sealed associated buffer =
      ((Transcript.decryptInto t sealed associated buffer).1,
        (Transcript.decryptInto t sealed associated buffer).2.1,
        (Transcript.decryptInto t sealed associated buffer).2.2.numbered) := by
  rw [← decryptInPlace_eq]
  unfold NumberedTranscript.decryptInPlace decryptInPlace
  rw [numbered_tagLength]
  by_cases hshort : sealed.length < t.tag.bytes
  · rw [if_pos hshort, if_pos hshort]
  · simp only [if_neg hshort, t.verify_numbered _ (length_splitAt hshort), numbered_duplex]
    generalize Duplex.receiveMac _ _ = received
    obtain ⟨genuine, d⟩ := received
    cases genuine <;> rfl

theorem decrypt_numbered (t : DuplexTranscript permute) (sealed associated : Bytes) :
    t.numbered.decrypt sealed associated =
      ((t.decrypt sealed associated).1, (t.decrypt sealed associated).2.numbered) := by
  have hdecrypt : Transcript.decrypt t sealed associated = t.decrypt sealed associated := rfl
  unfold NumberedTranscript.decrypt
  rw [decryptInPlace_numbered, Transcript.decryptInto, hdecrypt]
  generalize t.decrypt sealed associated = opened
  obtain ⟨outcome, u⟩ := opened
  cases outcome <;> rfl

/-- A use tells both forms the same, and leaves them the same. -/
theorem perform_numbered (t : DuplexTranscript permute) (use : Use) :
    use.perform t.numbered = ((use.perform t).1, (use.perform t).2.numbered) := by
  cases use with
  | setTagLength length =>
    have hset : Transcript.setTagLength t.numbered length = _ := t.setTagLength_numbered length
    rw [Use.perform, hset]
    rfl
  | decrypt sealed associated => exact t.decrypt_numbered sealed associated
  | _ => rfl

end DuplexTranscript

namespace Use

variable {permute : Block → Block}

theorem after_numbered (t : DuplexTranscript permute) (uses : List Use) :
    after t.numbered uses = (after t uses).numbered := by
  induction uses generalizing t with
  | nil => rfl
  | cons use rest ih =>
    rw [after, List.foldl_cons, t.perform_numbered use]
    exact ih (use.perform t).2

theorem answers_numbered (t : DuplexTranscript permute) (uses : List Use) :
    answers t.numbered uses = answers t uses := by
  induction uses generalizing t with
  | nil => rfl
  | cons use rest ih => rw [answers, answers, t.perform_numbered use, ih]

end Use

end DuplexHandshake
