import DuplexHandshake.Handshake.Basic
import DuplexHandshake.Text.Quoted
import DuplexHandshake.Transcript.Duplex
import DuplexHandshake.Transcript.Recorder

/-!
# Diagnostics

Texts that tell a person what a value is without giving a secret away. A record shows its name and
some of its fields; two dots stand for the others.
-/

namespace DuplexHandshake

def describeRecord (name : String) (fields : List (String × String)) (complete : Bool) : String :=
  name ++ " \x7b " ++ ", ".intercalate (fields.map fun (field, value) => field ++ ": " ++ value)
    ++ (if complete then " \x7d" else ", .. \x7d")

/-- Values that can be shown in a diagnostic. -/
class Describe (α : Type) where
  describe : α → String

export Describe (describe)

instance {α : Type} [Describe α] : Describe (Option α) where
  describe
    | some a => "Some(" ++ describe a ++ ")"
    | none => "None"

/-! ## Patterns and keys -/

instance : Describe Token where
  describe t := String.ofList (t.chars.map Char.toUpper)

instance : Describe PublicKey where
  describe k :=
    "PublicKey([" ++ ", ".intercalate ((k.toBytes.take 4).map fun b => Bytes.hex [b]) ++ "])"

instance : Describe KeyPair where
  describe p := describeRecord "KeyPair" [("public", describe p.publicKey)] false

instance : Describe SharedSecret where
  describe _ := "SharedSecret([REDACTED])"

/-! ## Transcripts and channels -/

instance {permute : Block → Block} : Describe (DuplexTranscript permute) where
  describe t := describeRecord "StrobeTranscript" [("tag_len", toString t.tag.bytes)] false

instance {policy : TagPolicy} : Describe (Recorder policy) where
  describe _ := "Recording"

instance {T : Type} [Describe T] : Describe (Channel T) where
  describe c := describeRecord "SessionState" [("transcript", describe c.transcript)] true

instance {T : Type} [Describe T] : Describe (Channels T) where
  describe c :=
    describeRecord "SessionPair"
      [("initiator_to_responder", describe c.toResponder),
        ("responder_to_initiator", describe c.toInitiator)]
      false

/-! ## Handshakes -/

instance : Describe Role where
  describe
    | .initiator => "Initiator"
    | .responder => "Responder"

instance : Describe Phase where
  describe
    | .fresh => "Initialized"
    | .underWay => "InProgress"
    | .finished => "Complete"

instance {K : KeyAgreement} {T : Type} : Describe (Handshake K T) where
  describe h :=
    describeRecord "HandshakeState"
      [("pattern", quote h.pattern.name), ("role", describe h.role), ("phase", describe h.phase)]
      false

end DuplexHandshake
