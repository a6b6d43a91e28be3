import DuplexHandshake.Handshake.Outcome

/-!
# Reading a message

The reader cuts the segments of the tokens off the message, one after another; what is left is the
sealed payload. A message too short for its tokens is refused at once. When a token or the payload
fails, what was done before stays done, and the caller's buffer is as before.
-/

namespace DuplexHandshake

/-- What a reader has in hand between two tokens. -/
structure Reader (T : Type) where
  transcript : T
  keys : Keyring
  /-- The message from here on. -/
  rest : Bytes

namespace Reader

variable {T : Type} [Transcript T]

def stop (r : Reader T) (error : HandshakeError) (events : List Event) :
    Except (Interruption (Reader T)) (Reader T) :=
  .error { error, events, state := r }

def ephemeral (r : Reader T) : Except (Interruption (Reader T)) (Reader T) :=
  match Bytes.split? keyLength r.rest with
  | none => r.stop .malformedMessage []
  | some (segment, rest) =>
    match PublicKey.ofBytes segment with
    | .error e => r.stop e []
    | .ok key =>
      .ok
        { transcript := Transcript.receiveClear r.transcript segment
          keys := { r.keys with peerEphemeral := some key }
          rest }

/-- Reads a static key, which travels sealed with a tag of the given length. -/
def static (tagLength : Nat) (r : Reader T) : Except (Interruption (Reader T)) (Reader T) :=
  match Bytes.split? (keyLength + tagLength) r.rest with
  | none => r.stop .malformedMessage []
  | some (segment, rest) =>
    match Transcript.decrypt r.transcript segment [] with
    -- The transcript has taken in what it could not open.
    | (.error e, transcript) => { r with transcript }.stop e [.staticKeyRejected]
    | (.ok opened, transcript) =>
      match PublicKey.ofBytes opened with
      | .error e => { r with transcript }.stop e []
      | .ok key => .ok { transcript, keys := { r.keys with peerStatic := some key }, rest }

def token (K : KeyAgreement) (role : Role) (tagLength : Nat) (r : Reader T) :
    Token → Except (Interruption (Reader T)) (Reader T)
  | .send .ephemeral => r.ephemeral
  | .send .static => r.static tagLength
  | .mix initiator responder =>
    match r.keys.sharedSecret K role initiator responder with
    | .error e => r.stop e []
    | .ok secret => .ok { r with transcript := Transcript.mixKey r.transcript secret.bytes.toList }

/-- Reads tokens in order, up to the first that fails. -/
def tokens (K : KeyAgreement) (role : Role) (tagLength : Nat) (r : Reader T) (ts : List Token) :
    Except (Interruption (Reader T)) (Reader T) :=
  ts.foldlM (token K role tagLength) r

end Reader

namespace Handshake

variable {K : KeyAgreement} {T : Type} [Transcript T]

/-- Reads the next message and appends its payload to a buffer. -/
def read (h : Handshake K T) (message buffer : Bytes) : Outcome K T :=
  match h.step? with
  | none => h.refuse buffer .alreadyComplete
  | some step =>
    -- The tag of the payload does not count here: a message without it fails to authenticate.
    if message.length < step.tokenLength h.tagLength then h.refuse buffer .malformedMessage
    else
      match h.transcript with
      | none => h.refuse buffer .alreadyComplete
      | some transcript =>
        match Reader.tokens K h.role h.tagLength { transcript, keys := h.keys, rest := message }
            step.tokens with
        | .error stopped =>
          let r := stopped.state
          h.abandon r.transcript r.keys buffer stopped.events stopped.error
        | .ok r =>
          match Transcript.decrypt r.transcript r.rest [] with
          | (.error e, t) => h.abandon t r.keys buffer [.payloadRejected] e
          | (.ok payload, t) =>
            { h with transcript := some t, keys := r.keys }.finishStep (buffer ++ payload)
              (.read h.done step.tokens.length message.length)

end Handshake

end DuplexHandshake
