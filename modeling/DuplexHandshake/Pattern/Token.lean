import DuplexHandshake.Error

/-!
# Handshake tokens

A message step is made of tokens. A token either sends one of the sender's public keys or mixes a
shared secret into the transcript. The secret is named by two letters: the first says which key of
the initiator takes part, the second which key of the responder.
-/

namespace DuplexHandshake

/-- The two key pairs that a party can own: one made for this handshake, one that lasts. -/
inductive KeyKind where
  | ephemeral
  | static
  deriving DecidableEq

namespace KeyKind

def letter : KeyKind → Char
  | ephemeral => 'e'
  | static => 's'

def ofLetter? : Char → Option KeyKind
  | 'e' => some ephemeral
  | 's' => some static
  | _ => none

theorem ofLetter?_letter (k : KeyKind) : ofLetter? k.letter = some k := by
  cases k <;> rfl

theorem letter_of_ofLetter? {c : Char} {k : KeyKind} (h : ofLetter? c = some k) : k.letter = c := by
  unfold ofLetter? at h
  split at h <;> cases h <;> rfl

end KeyKind

/-- An atomic operation of a message step. -/
inductive Token where
  /-- The sender's public key of this kind travels in the message: an ephemeral key in the clear, a
  static one sealed. -/
  | send (key : KeyKind)
  /-- The secret shared by the initiator's and the responder's key enters the transcript. -/
  | mix (initiator responder : KeyKind)
  deriving DecidableEq

namespace Token

/-- The token as written in pattern text. -/
def chars : Token → List Char
  | send key => [key.letter]
  | mix initiator responder => [initiator.letter, responder.letter]

/-- Reads a token that is written exactly, with nothing around it. -/
def ofChars : List Char → Except HandshakeError Token
  | [a] =>
    match KeyKind.ofLetter? a with
    | some key => .ok (send key)
    | none => .error .invalidToken
  | [a, b] =>
    match KeyKind.ofLetter? a, KeyKind.ofLetter? b with
    | some initiator, some responder => .ok (mix initiator responder)
    | _, _ => .error .invalidToken
  | _ => .error .invalidToken

def text (t : Token) : String :=
  String.ofList t.chars

def parse (text : String) : Except HandshakeError Token :=
  ofChars text.toList

theorem ofChars_chars (t : Token) : ofChars t.chars = .ok t := by
  cases t <;> simp [chars, ofChars, KeyKind.ofLetter?_letter]

theorem chars_of_ofChars {cs : List Char} {t : Token} (h : ofChars cs = .ok t) : t.chars = cs := by
  unfold ofChars at h
  split at h
  · split at h
    · next hk => cases h; simp [chars, KeyKind.letter_of_ofLetter? hk]
    · cases h
  · split at h
    · next hi hr =>
      cases h
      simp [chars, KeyKind.letter_of_ofLetter? hi, KeyKind.letter_of_ofLetter? hr]
    · cases h
  · cases h

end Token

end DuplexHandshake
