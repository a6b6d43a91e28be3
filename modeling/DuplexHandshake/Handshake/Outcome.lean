import DuplexHandshake.Handshake.Basic

/-!
# Outcomes of a step

An attempt at a step ends in one of three ways. It is refused and leaves everything as it was; it
stops half-way and leaves what it had done by then to the transcript and the keys; or it finishes
the step. Only the last one appends to the caller's buffer and counts the step as done.
-/

namespace DuplexHandshake

/-- What is left behind by an attempt at a step. -/
structure Outcome (K : KeyAgreement) (T : Type) where
  state : Handshake K T
  /-- The caller's buffer: its old contents, and what was appended. -/
  buffer : Bytes
  events : List Event
  /-- The channels, if this was the last step. -/
  result : Except HandshakeError (Option (Channels T))

/-- Work that stopped half-way: the reason, what was reported, and the state it had reached. -/
structure Interruption (σ : Type) where
  error : HandshakeError
  events : List Event
  state : σ

namespace Handshake

variable {K : KeyAgreement} {T : Type}

def refuse (h : Handshake K T) (buffer : Bytes) (error : HandshakeError) : Outcome K T where
  state := h
  buffer := buffer
  events := []
  result := .error error

/-- Keeps what an attempt had reached when it stopped. -/
def abandon (h : Handshake K T) (t : T) (keys : Keyring) (buffer : Bytes) (events : List Event)
    (error : HandshakeError) : Outcome K T where
  state := { h with transcript := some t, keys }
  buffer := buffer
  events := events
  result := .error error

/-- Counts the current step as done. The last one turns the transcript into channels; without a
transcript there is nothing to turn. -/
def finishStep [Transcript T] (h : Handshake K T) (buffer : Bytes) (report : Event) : Outcome K T :=
  -- The step counts even if there should be no transcript to turn.
  let h := { h with done := h.done + 1 }
  if h.done < h.pattern.steps.length then
    { state := h, buffer, events := [report], result := .ok none }
  else
    match h.transcript with
    | none => { state := h, buffer, events := [report], result := .error .alreadyComplete }
    | some t =>
      { state := { h with transcript := none }
        buffer
        events := [report, .split h.pattern.name h.role]
        result := .ok (some (.ofTranscript t)) }

end Handshake

end DuplexHandshake
