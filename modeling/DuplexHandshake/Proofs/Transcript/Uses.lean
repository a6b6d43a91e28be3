import DuplexHandshake.Transcript.Basic

/-!
# Using a transcript

Whoever owns a transcript can do with it what they like, a failed opening and a refused tag length among the
rest. What can be done is told by data, so that two transcripts can be put to
the same uses and compared by what they answer.
-/

namespace DuplexHandshake

/-- Something that the owner of a transcript can do with it. -/
inductive Use where
  | setTagLength (length : Nat)
  | mixData (data : Bytes)
  | mixMetadata (data : Bytes)
  | mixKey (secret : Bytes)
  | sendClear (data : Bytes)
  | receiveClear (data : Bytes)
  | encrypt (text associated : Bytes)
  | decrypt (sealed associated : Bytes)
  | ratchet (length : Nat)
  | prf (length : Nat)

namespace Use

variable {T : Type} [Transcript T]

/-- What the owner is told, and the transcript afterwards. -/
def perform (t : T) : Use → Except HandshakeError Bytes × T
  | setTagLength length =>
    let (accepted, t) := Transcript.setTagLength t length
    (accepted.map fun _ => [], t)
  | mixData data => (.ok [], Transcript.mixData t data)
  | mixMetadata data => (.ok [], Transcript.mixMetadata t data)
  | mixKey secret => (.ok [], Transcript.mixKey t secret)
  | sendClear data => (.ok [], Transcript.sendClear t data)
  | receiveClear data => (.ok [], Transcript.receiveClear t data)
  | encrypt text associated =>
    let (sealed, t) := Transcript.encrypt t text associated
    (.ok sealed, t)
  | decrypt sealed associated => Transcript.decrypt t sealed associated
  | ratchet length => (.ok [], Transcript.ratchet t length)
  | prf length =>
    let (out, t) := Transcript.prf t length
    (.ok out, t)

/-- All that the owner is told in the course of some uses. -/
def answers (t : T) : List Use → List (Except HandshakeError Bytes)
  | [] => []
  | use :: rest => (use.perform t).1 :: answers (use.perform t).2 rest

/-- What some uses leave of a transcript. -/
def after (t : T) (uses : List Use) : T :=
  uses.foldl (fun t use => (use.perform t).2) t

/-- The tag length that was chosen, if a use was such a choice and was accepted. -/
def setting? : Use × Except HandshakeError Bytes → Option Nat
  | (setTagLength length, .ok _) => some length
  | _ => none

/-- The tag lengths that were accepted in the course of some uses. -/
def settings (t : T) (uses : List Use) : List Nat :=
  (uses.zip (answers t uses)).filterMap setting?

theorem settings_cons (t : T) (use : Use) (rest : List Use) :
    settings t (use :: rest) =
      (setting? (use, (use.perform t).1)).toList ++ settings (use.perform t).2 rest := by
  rw [settings, answers, List.zip_cons_cons, List.filterMap_cons]
  cases setting? (use, (use.perform t).1) <;> rfl

end Use

end DuplexHandshake
