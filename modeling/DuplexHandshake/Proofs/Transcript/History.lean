import DuplexHandshake.Transcript.Basic

/-!
# Transcripts as histories

An ideal transcript is what it has taken in, whichever side took it in, and it opens nothing but
what one of the two sides has sealed at an equal history. Here is what that means, and a transcript
that is ideal: it opens what stands in a book.
-/

namespace DuplexHandshake

/-- Something that a transcript has taken in. Both sides of a message take in the same. -/
inductive Absorbed where
  | label (label : Bytes)
  | data (data : Bytes)
  | clear (data : Bytes)
  | sealed (text associated : Bytes)
  | key (secret : Bytes)
  deriving DecidableEq

/-- A reading of transcripts as histories. -/
structure History (T : Type) [Transcript T] where
  of : T → List Absorbed
  start : ∀ label, of (Transcript.start label) = [.label label]
  setTagLength : ∀ t n, of (Transcript.setTagLength t n).2 = of t
  mixData : ∀ t data, of (Transcript.mixData t data) = of t ++ [.data data]
  sendClear : ∀ t data, of (Transcript.sendClear t data) = of t ++ [.clear data]
  receiveClear : ∀ t data, of (Transcript.receiveClear t data) = of t ++ [.clear data]
  mixKey : ∀ t secret, of (Transcript.mixKey t secret) = of t ++ [.key secret]
  encrypt : ∀ t text associated,
    of (Transcript.encrypt t text associated).2 = of t ++ [.sealed text associated]
  decrypt : ∀ t sealed text associated, (Transcript.decrypt t sealed associated).1 = .ok text →
    of (Transcript.decrypt t sealed associated).2 = of t ++ [.sealed text associated]

/-- A seal: with which transcript it was made, and of what. -/
structure Sealing (T : Type) where
  before : T
  text : Bytes
  associated : Bytes
  deriving DecidableEq

def Sealing.output {T : Type} [Transcript T] (s : Sealing T) : Bytes :=
  (Transcript.encrypt s.before s.text s.associated).1

/-- Whatever is opened came of one of these seals, made at an equal history and of the same text. -/
def History.Genuine {T : Type} [Transcript T] (H : History T) (seals : List (Sealing T)) : Prop :=
  ∀ (t : T) (sealed associated text : Bytes),
    (Transcript.decrypt t sealed associated).1 = .ok text →
      ∃ s ∈ seals, H.of s.before = H.of t ∧ s.associated = associated ∧ s.output = sealed ∧
        s.text = text

/-! ## An ideal transcript -/

/-- A transcript that is its history and opens what stands in a book of seals. -/
structure IdealTranscript (book : List (Sealing (List Absorbed))) where
  absorbed : List Absorbed
  deriving DecidableEq

namespace IdealTranscript

variable {book : List (Sealing (List Absorbed))}

def absorb (t : IdealTranscript book) (a : Absorbed) : IdealTranscript book :=
  ⟨t.absorbed ++ [a]⟩

def segment (text : Bytes) : Bytes :=
  text ++ List.replicate 16 0

/-- Looks a segment up in the book. -/
def decrypt (t : IdealTranscript book) (sealed associated : Bytes) :
    Except HandshakeError Bytes × IdealTranscript book :=
  match book.find? fun e =>
      e.before = t.absorbed ∧ segment e.text = sealed ∧ e.associated = associated with
  | some e => (.ok e.text, t.absorb (.sealed e.text associated))
  | none => (.error .authenticationFailure, t)

instance : Transcript (IdealTranscript book) where
  ratchetLength := 0
  start label := ⟨[.label label]⟩
  setTagLength t _ := (.ok (), t)
  tagLength _ := 16
  mixData t data := t.absorb (.data data)
  sendClear t data := t.absorb (.clear data)
  receiveClear t data := t.absorb (.clear data)
  encrypt t text associated := (segment text, t.absorb (.sealed text associated))
  decrypt := decrypt
  mixKey t secret := t.absorb (.key secret)
  ratchet t _ := t
  prf t n := (List.replicate n 0, t)

theorem mem_book_of_decrypt {t : IdealTranscript book} {sealed associated text : Bytes}
    (h : (t.decrypt sealed associated).1 = .ok text) :
    ⟨t.absorbed, text, associated⟩ ∈ book ∧ segment text = sealed ∧
      (t.decrypt sealed associated).2 = t.absorb (.sealed text associated) := by
  unfold decrypt at h ⊢
  split at h
  · next e he =>
    have htext : e.text = text := Except.ok.inj h
    have hfound := List.find?_some he
    have hmem := List.mem_of_find?_eq_some he
    rcases e with ⟨history, found, extra⟩
    simp only [decide_eq_true_eq] at hfound htext
    rcases hfound with ⟨rfl, hsegment, rfl⟩
    subst htext
    exact ⟨hmem, hsegment, rfl⟩
  · cases h

def history : History (IdealTranscript book) where
  of := absorbed
  start _ := rfl
  setTagLength _ _ := rfl
  mixData _ _ := rfl
  sendClear _ _ := rfl
  receiveClear _ _ := rfl
  mixKey _ _ := rfl
  encrypt _ _ _ := rfl
  decrypt _ _ _ _ h := congrArg absorbed (mem_book_of_decrypt h).2.2

/-- Every entry of the book is one of these seals, so that nothing else is opened. -/
theorem genuine_of_book {seals : List (Sealing (IdealTranscript book))}
    (h : ∀ e ∈ book, ⟨⟨e.before⟩, e.text, e.associated⟩ ∈ seals) : history.Genuine seals := by
  intro t sealed associated text hopen
  have hmem := mem_book_of_decrypt hopen
  exact ⟨_, h _ hmem.1, rfl, rfl, hmem.2.1, rfl⟩

end IdealTranscript

end DuplexHandshake
