import DuplexHandshake.Channel
import DuplexHandshake.Key.Ring
import DuplexHandshake.Pattern.Registry

/-!
# Handshakes under way

A handshake walks through the steps of its pattern. It owns its transcript until the last step is
done, which turns it into channels. Nothing but a successful step moves the handshake forward.
-/

namespace DuplexHandshake

/-- A handshake under way, with keys of the agreement `K` and a transcript of type `T`. -/
structure Handshake (K : KeyAgreement) (T : Type) where
  /-- Gone once the last step is done. -/
  transcript : Option T
  pattern : Pattern
  done : Nat
  role : Role
  keys : Keyring

/-- What a party has to do next. -/
inductive Turn where
  | write
  | read
  | over
  deriving DecidableEq

/-- How far a handshake has come. -/
inductive Phase where
  | fresh
  | underWay
  | finished
  deriving DecidableEq

abbrev handshakeTagLength : Nat := 16

/-- What the label of every handshake starts with; the name of its pattern follows. -/
def protocolLabel : String := "DISCOv0.1.0_"

/-! ## Lengths -/

/-- The bytes of a message that a token takes up. -/
def Token.length (tagLength : Nat) : Token → Nat
  | .send .ephemeral => keyLength
  | .send .static => keyLength + tagLength
  | .mix .. => 0

def Step.tokenLength (tagLength : Nat) (s : Step) : Nat :=
  s.tokens.foldr (fun t rest => t.length tagLength + rest) 0

namespace Handshake

variable {K : KeyAgreement} {T : Type}

/-! ## Views -/

def step? (h : Handshake K T) : Option Step :=
  h.pattern.steps[h.done]?

def turn (h : Handshake K T) : Turn :=
  match h.step? with
  | none => .over
  | some step => if step.direction.writer = h.role then .write else .read

def phase (h : Handshake K T) : Phase :=
  if h.pattern.steps.length ≤ h.done then .finished
  else if h.done = 0 then .fresh
  else .underWay

variable [Transcript T]

def tagLength (h : Handshake K T) : Nat :=
  match h.transcript with
  | some t => Transcript.tagLength t
  | none => handshakeTagLength

/-- The length of the next message if it carries a payload of the given length. -/
def messageLength (h : Handshake K T) (payload : Nat) : Except HandshakeError Nat :=
  match h.step? with
  | some step => .ok (step.tokenLength h.tagLength + h.tagLength + payload)
  | none => .error .alreadyComplete

/-! ## The start -/

/-- Takes in the static keys that a side is assumed to have shared, once for every token. -/
def mixPreMessage (keys : Keyring) (role owner : Role) (t : T) (pre : List Token) :
    Except HandshakeError T :=
  pre.foldlM (fun t _ => do
    let key ← keys.staticKey role owner
    return Transcript.mixData t key.toBytes) t

/-- Starts a handshake for the pattern of that name. The transcript begins with the label, the
prologue, and the keys known beforehand, those of the initiator first on both sides. -/
def start (registry : Registry) (name : String) (role : Role) (prologue : Bytes) (keys : Keyring) :
    Except HandshakeError (Handshake K T × List Event) := do
  let pattern ← registry.get name
  let labelled : T := Transcript.start (Bytes.ofText (protocolLabel ++ pattern.name))
  let (accepted, t) := Transcript.setTagLength labelled handshakeTagLength
  accepted
  let t := Transcript.mixData t prologue
  -- This order is the same on both sides, whichever of the two keys is one's own.
  let t ← mixPreMessage keys role .initiator t pattern.initiatorPre
  let t ← mixPreMessage keys role .responder t pattern.responderPre
  return ({ transcript := some t, pattern, done := 0, role, keys }, [.started pattern.name role])

end Handshake

end DuplexHandshake
