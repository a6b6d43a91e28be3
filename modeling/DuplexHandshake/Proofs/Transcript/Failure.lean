import DuplexHandshake.Proofs.Transcript.Numbered

/-!
# How a transcript refuses

A transcript that was begun with a label may have been used in any way, with openings that failed and tag
lengths that were refused among the uses. The length of its tags is still the last one that was accepted,
and so one of the two for which tags can be compared. An opening then fails for one reason only. If the
input has no room for a tag nothing has happened; otherwise the whole input has been taken in, be the tag
right or wrong, and it is right if the transcript would have brought forth that tag itself.
-/

namespace DuplexHandshake

open Strobe (Duplex)

/-! ## The tag length -/

namespace DuplexTranscript

variable {permute : Block → Block}

/-- One use sets the tag length if it is a choice that is accepted. -/
theorem bytes_perform (t : DuplexTranscript permute) (use : Use) :
    (use.perform t).2.tag.bytes = (Use.setting? (use, (use.perform t).1)).getD t.tag.bytes := by
  cases use with
  | setTagLength length =>
    have hset : Transcript.setTagLength t length = t.setTagLength length := rfl
    rw [Use.perform, hset, setTagLength]
    cases htag : TagLength.ofBytes? length with
    | none => rfl
    | some tag => exact TagLength.bytes_of_ofBytes? htag
  | decrypt sealed associated => exact congrArg TagLength.bytes (t.tag_decrypt sealed associated)
  | _ => rfl

theorem bytes_after (t : DuplexTranscript permute) (uses : List Use) :
    (Use.after t uses).tag.bytes = (Use.settings t uses).getLastD t.tag.bytes := by
  induction uses generalizing t with
  | nil => rfl
  | cons use rest ih =>
    have hrest := ih (use.perform t).2
    rw [t.bytes_perform use] at hrest
    rw [Use.settings_cons, Use.after, List.foldl_cons]
    refine hrest.trans ?_
    cases Use.setting? (use, (use.perform t).1) with
    | none => rfl
    | some length => rw [Option.toList_some, List.singleton_append, List.getLastD_cons, Option.getD_some]

end DuplexTranscript

/-! ## The tag that would be right -/

namespace Strobe.Duplex

variable {permute : Block → Block}

/-- The tag of `n` bytes that a duplex brings forth where it takes one in. -/
def ownTag (d : Duplex permute) (n : Nat) : Bytes :=
  (d.addData .receiveMac (List.replicate n 0)).1

theorem receiveMac_iff_ownTag (d : Duplex permute) (tag : Bytes) :
    (d.receiveMac tag).1 = true ↔ tag = d.ownTag tag.length := by
  have hlength : (d.putData .receiveMac tag).1.length = tag.length := length_run _ _ _
  rw [receiveMac, all_eq_zero_iff, hlength, eq_comm (a := tag)]
  exact (d.announce .receiveMac).run_input_eq_iff _ tag

/-- It is what the peer draws. -/
theorem Mirrors.sendMac_eq_ownTag {peer d : Duplex permute} (h : peer.Mirrors d) (n : Nat) :
    (peer.sendMac n).1 = d.ownTag n :=
  (h.addData .sendMac (List.replicate n 0)).1

end Strobe.Duplex

/-! ## Openings -/

namespace DuplexTranscript

variable {permute : Block → Block}

/-- What an opening leaves behind that had a tag to compare. -/
theorem decryptInto_append (t : DuplexTranscript permute) {body tag : Bytes} (associated buffer : Bytes)
    (htag : tag.length = t.tag.bytes) :
    Transcript.decryptInto t (body ++ tag) associated buffer =
      (if tag = ((t.duplex.receiveEncrypted body).2.mixData associated).ownTag t.tag.bytes
        then (.ok (), buffer ++ (t.duplex.receiveEncrypted body).1,
          { t with
            duplex := (((t.duplex.receiveEncrypted body).2.mixData associated).receiveMac tag).2 })
        else (.error .authenticationFailure, buffer,
          { t with
            duplex :=
              (((t.duplex.receiveEncrypted body).2.mixData associated).receiveMac tag).2 })) := by
  have hdecrypt : Transcript.decrypt t (body ++ tag) associated = t.decrypt (body ++ tag) associated :=
    rfl
  have hgenuine := ((t.duplex.receiveEncrypted body).2.mixData associated).receiveMac_iff_ownTag tag
  rw [htag] at hgenuine
  rw [Transcript.decryptInto, hdecrypt, t.decrypt_append body tag associated htag]
  by_cases hown : tag = ((t.duplex.receiveEncrypted body).2.mixData associated).ownTag t.tag.bytes
  · rw [if_pos hown, if_pos (hgenuine.2 hown)]
  · rw [if_neg hown, if_neg (mt hgenuine.1 hown)]

theorem refused_decryptInto (t : DuplexTranscript permute) {sealed associated buffer : Bytes}
    {e : HandshakeError} (h : (Transcript.decryptInto t sealed associated buffer).1 = .error e) :
    e = .authenticationFailure ∧ (Transcript.decryptInto t sealed associated buffer).2.1 = buffer := by
  have hkind : ∀ e, (Transcript.decrypt t sealed associated).1 = .error e → e = .authenticationFailure :=
    fun _ => error_of_decrypt
  unfold Transcript.decryptInto at h ⊢
  generalize Transcript.decrypt t sealed associated = opened at h hkind ⊢
  obtain ⟨outcome, u⟩ := opened
  cases outcome with
  | ok text => cases h
  | error e' =>
    cases h
    exact ⟨hkind e rfl, rfl⟩

theorem tag_decryptInto (t : DuplexTranscript permute) (sealed associated buffer : Bytes) :
    (Transcript.decryptInto t sealed associated buffer).2.2.tag = t.tag := by
  have hdecrypt : (Transcript.decrypt t sealed associated).2.tag = t.tag :=
    t.tag_decrypt sealed associated
  unfold Transcript.decryptInto
  split
  · next heq => rw [← hdecrypt, heq]
  · next heq => rw [← hdecrypt, heq]

end DuplexTranscript

namespace NumberedTranscript

variable {permute : Block → Block}

/-- How `t` stands, if it is what some uses left of a transcript that was begun with a label, and `u` is
what they left of one with a type of its own for the tag length. -/
structure Standing (label : Bytes) (uses : List Use) (t : NumberedTranscript permute)
    (u : DuplexTranscript permute) : Prop where
  answers : Use.answers (Transcript.start label : NumberedTranscript permute) uses =
    Use.answers (Transcript.start label : DuplexTranscript permute) uses
  eq_numbered : t = u.numbered
  opening : ∀ sealed associated buffer, t.decryptInPlace sealed associated buffer =
    ((Transcript.decryptInto u sealed associated buffer).1,
      (Transcript.decryptInto u sealed associated buffer).2.1,
      (Transcript.decryptInto u sealed associated buffer).2.2.numbered)
  /-- The last tag length that was accepted is in force. -/
  tagLength : t.tagLength =
    (Use.settings (Transcript.start label : NumberedTranscript permute) uses).getLastD 16
  tagLength_mem : t.tagLength = 16 ∨ t.tagLength = 32
  setTagLength : ∀ length, t.setTagLength length =
    if length = 16 ∨ length = 32 then (.ok (), { t with tagLength := length })
    else (.error .unsupportedTagLength, t)
  /-- The tag that an opening cuts off can be compared, in whatever state that is done. -/
  verify : ∀ d (sealed : Bytes), ¬ sealed.length < t.tagLength →
    (t.verify d (sealed.splitAt (sealed.length - t.tagLength)).2).1 = .genuine ∨
      (t.verify d (sealed.splitAt (sealed.length - t.tagLength)).2).1 = .forged
  refused : ∀ sealed associated buffer e,
    (t.decryptInPlace sealed associated buffer).1 = .error e →
      e = .authenticationFailure ∧ (t.decryptInPlace sealed associated buffer).2.1 = buffer ∧
        (t.decryptInPlace sealed associated buffer).2.2.tagLength = t.tagLength
  /-- An input without room for a tag leaves everything as it was. -/
  short : ∀ sealed associated buffer, sealed.length < t.tagLength →
    t.decryptInPlace sealed associated buffer = (.error .authenticationFailure, buffer, t)
  /-- Any other is taken in, whatever comes of it. -/
  long : ∀ body tag associated buffer, tag.length = t.tagLength →
    (t.decryptInPlace (body ++ tag) associated buffer).2.2 =
      { t with
        duplex := (((t.duplex.receiveEncrypted body).2.mixData associated).receiveMac tag).2 }
  refused_iff : ∀ body tag associated buffer, tag.length = t.tagLength →
    ((t.decryptInPlace (body ++ tag) associated buffer).1 = .error .authenticationFailure ↔
      tag ≠ ((t.duplex.receiveEncrypted body).2.mixData associated).ownTag t.tagLength)
  ownTag : ∀ peer d : Duplex permute, peer.Mirrors d →
    (peer.sendMac t.tagLength).1 = d.ownTag t.tagLength

theorem setTagLength_eq (t : NumberedTranscript permute) (length : Nat) :
    t.setTagLength length =
      if length = 16 ∨ length = 32 then (.ok (), { t with tagLength := length })
      else (.error .unsupportedTagLength, t) := by
  unfold setTagLength
  split
  · rfl
  · rfl
  · next h16 h32 => rw [if_neg (not_or.2 ⟨h16, h32⟩)]

/-- The tag length apart, nothing about the standing of a transcript depends on how it was used. -/
theorem standing_numbered {label : Bytes} {uses : List Use} (u : DuplexTranscript permute)
    (hbytes : u.tag.bytes =
      (Use.settings (Transcript.start label : DuplexTranscript permute) uses).getLastD 16) :
    Standing label uses u.numbered u where
  answers := Use.answers_numbered (Transcript.start label : DuplexTranscript permute) uses
  eq_numbered := rfl
  opening := u.decryptInPlace_numbered
  tagLength := by
    rw [Use.settings, ← DuplexTranscript.numbered_start, Use.answers_numbered]
    exact hbytes
  tagLength_mem := by
    rw [DuplexTranscript.numbered_tagLength]
    cases u.tag with
    | standard => exact .inl rfl
    | long => exact .inr rfl
  setTagLength := u.numbered.setTagLength_eq
  verify d sealed hlong := by
    rw [DuplexTranscript.numbered_tagLength] at hlong ⊢
    rw [u.verify_numbered d (DuplexTranscript.length_splitAt hlong)]
    split
    · exact .inl rfl
    · exact .inr rfl
  refused sealed associated buffer e herror := by
    rw [u.decryptInPlace_numbered] at herror ⊢
    have hrefused := u.refused_decryptInto herror
    exact ⟨hrefused.1, hrefused.2, congrArg TagLength.bytes (u.tag_decryptInto _ _ _)⟩
  short sealed associated buffer hshort := if_pos hshort
  long body tag associated buffer htag := by
    rw [u.decryptInPlace_numbered, u.decryptInto_append associated buffer htag]
    split <;> rfl
  refused_iff body tag associated buffer htag := by
    rw [u.decryptInPlace_numbered, u.decryptInto_append associated buffer htag]
    split
    · next hown =>
      have hopened : (Except.ok () : Except HandshakeError Unit) ≠ .error .authenticationFailure := by
        intro h
        cases h
      exact iff_of_false hopened (not_not_intro hown)
    · next hother => exact iff_of_true rfl hother
  ownTag _ _ hmirrors := hmirrors.sendMac_eq_ownTag _

/-- Whatever has been done with a transcript, it refuses cleanly. -/
theorem openings_after_uses (permute : Block → Block) (label : Bytes) (uses : List Use) :
    Standing label uses (Use.after (Transcript.start label : NumberedTranscript permute) uses)
      (Use.after (Transcript.start label : DuplexTranscript permute) uses) := by
  rw [← DuplexTranscript.numbered_start, Use.after_numbered]
  exact standing_numbered _ (DuplexTranscript.bytes_after _ uses)

end NumberedTranscript

end DuplexHandshake
