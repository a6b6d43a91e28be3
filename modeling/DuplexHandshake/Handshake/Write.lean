import DuplexHandshake.Handshake.Outcome
import DuplexHandshake.Random

/-!
# Writing a message

The writer goes through the tokens of the step, then seals the payload. When a token fails, what the
tokens before it did to transcript, keys and randomness stays, and the caller's buffer is as before.
-/

namespace DuplexHandshake

/-- What a writer has in hand between two tokens. -/
structure Writer (T : Type) where
  transcript : T
  keys : Keyring
  random : RandomStream
  message : Bytes

namespace Writer

variable {T : Type} [Transcript T]

def stop (w : Writer T) (error : HandshakeError) : Except (Interruption (Writer T)) (Writer T) :=
  .error { error, events := [], state := w }

def token (K : KeyAgreement) (role : Role) (w : Writer T) :
    Token → Except (Interruption (Writer T)) (Writer T)
  | .send .ephemeral =>
    -- A pair that was there before is replaced.
    let (secret, random) := w.random.drawKey
    let pair := K.keyPair secret
    .ok
      { transcript := Transcript.sendClear w.transcript pair.publicKey.toBytes
        keys := { w.keys with ownEphemeral := some pair }
        random
        message := w.message ++ pair.publicKey.toBytes }
  | .send .static =>
    match w.keys.ownStatic with
    | none => w.stop .missingKeyMaterial
    | some pair =>
      let (sealed, transcript) := Transcript.encrypt w.transcript pair.publicKey.toBytes []
      .ok { w with transcript, message := w.message ++ sealed }
  | .mix initiator responder =>
    match w.keys.sharedSecret K role initiator responder with
    | .error e => w.stop e
    | .ok secret => .ok { w with transcript := Transcript.mixKey w.transcript secret.bytes.toList }

/-- Writes tokens in order, up to the first that fails. -/
def tokens (K : KeyAgreement) (role : Role) (w : Writer T) (ts : List Token) :
    Except (Interruption (Writer T)) (Writer T) :=
  ts.foldlM (token K role) w

end Writer

namespace Handshake

variable {K : KeyAgreement} {T : Type} [Transcript T]

/-- Writes the next message and appends it to a buffer. -/
def write (h : Handshake K T) (payload buffer : Bytes) (random : RandomStream) :
    Outcome K T × RandomStream :=
  match h.step? with
  | none => (h.refuse buffer .alreadyComplete, random)
  | some step =>
    match h.transcript with
    | none => (h.refuse buffer .alreadyComplete, random)
    | some transcript =>
      match Writer.tokens K h.role { transcript, keys := h.keys, random, message := [] }
          step.tokens with
      | .error stopped =>
        let w := stopped.state
        (h.abandon w.transcript w.keys buffer stopped.events stopped.error, w.random)
      | .ok w =>
        -- The payload is sealed at the end of every message, be it empty.
        let (sealed, t) := Transcript.encrypt w.transcript payload []
        let message := w.message ++ sealed
        ({ h with transcript := some t, keys := w.keys }.finishStep (buffer ++ message)
            (.wrote h.done step.tokens.length message.length),
          w.random)

end Handshake

end DuplexHandshake
