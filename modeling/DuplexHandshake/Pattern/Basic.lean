import DuplexHandshake.Pattern.Step

/-!
# Handshake patterns

A pattern names a sequence of message steps and the static keys that each side is assumed to know
beforehand. Only sound patterns are values of the type: pre-messages name static keys, there is a
step, and no step is empty.
-/

namespace DuplexHandshake

/-- A named handshake. -/
structure Pattern where
  name : String
  /-- The keys of the initiator that the responder knows beforehand. -/
  initiatorPre : List Token
  /-- The keys of the responder that the initiator knows beforehand. -/
  responderPre : List Token
  steps : List Step
  initiatorPre_static : ∀ t ∈ initiatorPre, t = .send .static
  responderPre_static : ∀ t ∈ responderPre, t = .send .static
  steps_ne_nil : steps ≠ []
  tokens_ne_nil : ∀ s ∈ steps, s.tokens ≠ []
  deriving DecidableEq

namespace Pattern

/-- Builds a pattern from its parts, or refuses parts that make no sound pattern. -/
def ofParts (name : String) (initiatorPre responderPre : List Token) (steps : List Step) :
    Except HandshakeError Pattern :=
  if h : (∀ t ∈ initiatorPre, t = .send .static) ∧ (∀ t ∈ responderPre, t = .send .static) ∧
      steps ≠ [] ∧ ∀ s ∈ steps, s.tokens ≠ [] then
    .ok
      { name, initiatorPre, responderPre, steps
        initiatorPre_static := h.1
        responderPre_static := h.2.1
        steps_ne_nil := h.2.2.1
        tokens_ne_nil := h.2.2.2 }
  else .error .invalidPattern

/-- Reads a pattern from text. Of several faults the first one counts, in the order steps,
initiator's pre-message, responder's pre-message, soundness of the whole. -/
def parse (name initiatorPre responderPre : String) (steps : List String) :
    Except HandshakeError Pattern := do
  let steps ← steps.mapM Step.parse
  let initiatorPre ← parsePreMessage initiatorPre.toList
  let responderPre ← parsePreMessage responderPre.toList
  ofParts name initiatorPre responderPre steps

/-- Mutual authentication, with both static keys sent sealed. -/
def xx : Pattern where
  name := "XX"
  initiatorPre := []
  responderPre := []
  steps :=
    [⟨.toResponder, [.send .ephemeral]⟩,
      ⟨.toInitiator,
        [.send .ephemeral, .mix .ephemeral .ephemeral, .send .static, .mix .ephemeral .static]⟩,
      ⟨.toResponder, [.send .static, .mix .static .ephemeral]⟩]
  initiatorPre_static := by simp
  responderPre_static := by simp
  steps_ne_nil := by simp
  tokens_ne_nil := by simp

end Pattern

end DuplexHandshake
