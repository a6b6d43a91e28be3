import DuplexHandshake.Proofs.Handshake.Lengths

/-!
# What a call reports

A call reports its success, and a failed opening with the segment that could not be opened; other
failures it passes over in silence. All that a report says can be told from outside: from the pattern
and the number of steps done, the length of the message or its payload, and how the call ended. Each
report goes to the log at the level of its kind, with a text that is always the same.
-/

namespace DuplexHandshake

/-- The sealed parts of a message. -/
inductive Segment where
  | staticKey
  | payload
  deriving DecidableEq

def Segment.warning : Segment → Event
  | staticKey => .staticKeyRejected
  | payload => .payloadRejected

/-- An event as it stands in a log, apart from its fields: how much it matters, and its text. -/
structure Event.Line where
  level : Event.Level
  text : String
  deriving DecidableEq

def Event.line (e : Event) : Event.Line :=
  ⟨e.level, e.message⟩

/-- A segment that cannot be opened is worth a warning, whichever it is. -/
def Segment.line : Segment → Event.Line
  | staticKey => ⟨.warning, "remote static key failed authentication"⟩
  | payload => ⟨.warning, "handshake payload failed authentication"⟩

theorem Segment.line_warning (segment : Segment) : segment.warning.line = segment.line := by
  cases segment <;> rfl

/-- The index of the step that an event is about. -/
def Event.step? : Event → Option Nat
  | .wrote step .. | .read step .. => some step
  | _ => none

/-- The length of the message that an event says was written. -/
def Event.written? : Event → Option Nat
  | .wrote _ _ length => some length
  | _ => none

/-- What can be seen of a call from outside: a length, how it ended, and for a read which segment
could not be opened. -/
inductive Glimpse where
  | write (payload : Nat) (verdict : Except HandshakeError Unit)
  | read (message : Nat) (verdict : Except HandshakeError Unit) (unopened : Option Segment)

/-- What can be seen of a handshake from outside. -/
structure Standing where
  pattern : Pattern
  role : Role
  done : Nat

namespace Standing

/-- A success reports the step, and the last one the end of the handshake. -/
def advance (s : Standing) (report : Event) : List Event × Standing :=
  (if s.done + 1 < s.pattern.steps.length then [report]
    else [report, .split s.pattern.name s.role],
    { s with done := s.done + 1 })

/-- What a call has to report that is seen like this, and the standing after it. -/
def tell (s : Standing) : Glimpse → List Event × Standing
  | .write payload (.ok _) =>
    match s.pattern.steps[s.done]? with
    | none => ([], s)
    | some step =>
      s.advance (.wrote s.done step.tokens.length
        (step.tokenLength handshakeTagLength + handshakeTagLength + payload))
  | .read message (.ok _) _ =>
    match s.pattern.steps[s.done]? with
    | none => ([], s)
    | some step => s.advance (.read s.done step.tokens.length message)
  | .write _ (.error _) => ([], s)
  | .read _ (.error _) unopened => (unopened.toList.map Segment.warning, s)

/-- What a step leaves in the log when it is done: a trace of the message, and after the last step a line at
debug level. Where no step is left nothing can be done. -/
def stepLines (s : Standing) (text : String) : List Event.Line :=
  if s.done + 1 < s.pattern.steps.length then [⟨.trace, text⟩]
  else if s.done + 1 = s.pattern.steps.length then
    [⟨.trace, text⟩, ⟨.debug, "handshake complete, splitting transcript"⟩]
  else []

/-- What stands in the log of a call that is seen like this. -/
def lines (s : Standing) : Glimpse → List Event.Line
  | .write _ (.ok _) => s.stepLines "wrote handshake message"
  | .read _ (.ok _) _ => s.stepLines "read handshake message"
  | .write _ (.error _) => []
  | .read _ (.error _) unopened => unopened.toList.map Segment.line

variable {s : Standing} {step : Step}

theorem tell_write (hstep : s.pattern.steps[s.done]? = some step) (payload : Nat) :
    s.tell (.write payload (.ok ())) =
      s.advance (.wrote s.done step.tokens.length
        (step.tokenLength handshakeTagLength + handshakeTagLength + payload)) := by
  unfold tell
  rw [hstep]

theorem tell_read (hstep : s.pattern.steps[s.done]? = some step) (message : Nat)
    (unopened : Option Segment) :
    s.tell (.read message (.ok ()) unopened) =
      s.advance (.read s.done step.tokens.length message) := by
  unfold tell
  rw [hstep]

/-- A report of a step is about the first step that is not done yet. -/
theorem steps_of_advance (s : Standing) {report : Event} (hreport : report.step? = some s.done) :
    List.range s.done ++ (s.advance report).1.filterMap Event.step? =
      List.range (s.advance report).2.done := by
  have hsteps : (s.advance report).1.filterMap Event.step? = [s.done] := by
    unfold advance
    dsimp only
    split <;> rw [List.filterMap_cons_some hreport] <;> rfl
  rw [hsteps, advance, List.range_succ]

theorem steps_of_tell (s : Standing) (glimpse : Glimpse) :
    List.range s.done ++ (s.tell glimpse).1.filterMap Event.step? =
      List.range (s.tell glimpse).2.done := by
  cases glimpse with
  | write payload verdict =>
    cases verdict with
    | error e => simp [tell]
    | ok done =>
      cases hstep : s.pattern.steps[s.done]? with
      | none => simp [tell, hstep]
      | some step =>
        rw [tell_write hstep]
        exact s.steps_of_advance rfl
  | read message verdict unopened =>
    cases verdict with
    | error e =>
      cases unopened with
      | none => simp [tell]
      | some segment => cases segment <;> simp [tell, Segment.warning, Event.step?]
    | ok done =>
      cases hstep : s.pattern.steps[s.done]? with
      | none => simp [tell, hstep]
      | some step =>
        rw [tell_read hstep]
        exact s.steps_of_advance rfl

theorem lines_of_advance (hstep : s.pattern.steps[s.done]? = some step) {report : Event} {text : String}
    (hreport : report.line = ⟨.trace, text⟩) :
    (s.advance report).1.map Event.line = s.stepLines text := by
  have hdone : s.done < s.pattern.steps.length := (List.getElem?_eq_some_iff.1 hstep).1
  unfold advance stepLines
  dsimp only
  split
  · rw [List.map_singleton, hreport]
  · next hlast =>
    rw [if_pos (by omega), List.map_cons, hreport]
    rfl

theorem stepLines_of_none (hstep : s.pattern.steps[s.done]? = none) (text : String) :
    s.stepLines text = [] := by
  have hdone : s.pattern.steps.length ≤ s.done := List.getElem?_eq_none_iff.1 hstep
  rw [stepLines, if_neg (by omega), if_neg (by omega)]

/-- Whatever a call reports, it is logged at its level and with its text. -/
theorem lines_of_tell (s : Standing) (glimpse : Glimpse) :
    (s.tell glimpse).1.map Event.line = s.lines glimpse := by
  cases glimpse with
  | write payload verdict =>
    cases verdict with
    | error e => rfl
    | ok done =>
      cases hstep : s.pattern.steps[s.done]? with
      | none =>
        rw [lines, stepLines_of_none hstep]
        simp [tell, hstep]
      | some step =>
        rw [tell_write hstep]
        exact lines_of_advance hstep rfl
  | read message verdict unopened =>
    cases verdict with
    | error e =>
      rw [tell, lines, List.map_map]
      exact List.map_congr_left fun segment _ => segment.line_warning
    | ok done =>
      cases hstep : s.pattern.steps[s.done]? with
      | none =>
        rw [lines, stepLines_of_none hstep]
        simp [tell, hstep]
      | some step =>
        rw [tell_read hstep]
        exact lines_of_advance hstep rfl

/-- Only writing reports that something was written. -/
theorem written_of_tell_read (s : Standing) (message : Nat) (verdict : Except HandshakeError Unit)
    (unopened : Option Segment) :
    (s.tell (.read message verdict unopened)).1.filterMap Event.written? = [] := by
  cases verdict with
  | error e =>
    cases unopened with
    | none => rfl
    | some segment => cases segment <;> rfl
  | ok done =>
    cases hstep : s.pattern.steps[s.done]? with
    | none => simp [tell, hstep]
    | some step =>
      rw [tell_read hstep, advance]
      dsimp only
      split <;> rfl

end Standing

variable {K : KeyAgreement} {T : Type} [Transcript T]

def Outcome.verdict (o : Outcome K T) : Except HandshakeError Unit :=
  o.result.map fun _ => ()

namespace Handshake

def standing (h : Handshake K T) : Standing :=
  ⟨h.pattern, h.role, h.done⟩

/-- The segment that a reader is at when it fails to open one: that of a static key, unless it has
read all tokens. -/
def segmentReached (h : Handshake K T) (message : Bytes) : Segment :=
  match h.step?, h.transcript with
  | some step, some transcript =>
    match Reader.tokens K h.role h.tagLength { transcript, keys := h.keys, rest := message }
        step.tokens with
    | .error _ => .staticKey
    | .ok _ => .payload
  | _, _ => .payload

/-- The segment that made a read fail, if it failed to authenticate. -/
def unopened (h : Handshake K T) (message buffer : Bytes) : Option Segment :=
  match (h.read message buffer).result with
  | .error e => if e = .authenticationFailure then some (h.segmentReached message) else none
  | .ok _ => none

def glimpse (h : Handshake K T) : Call → Glimpse
  | .write payload buffer random => .write payload.length (h.write payload buffer random).1.verdict
  | .read message buffer =>
    .read message.length (h.read message buffer).verdict (h.unopened message buffer)

end Handshake

/-! ## Tokens -/

namespace Writer

variable {role : Role}

/-- A token that stops a writer reports nothing. -/
theorem tokens_error_events {w : Writer T} {ts : List Token} {stopped : Interruption (Writer T)}
    (h : w.tokens K role ts = .error stopped) : stopped.events = [] :=
  Interruption.of_foldlM_error (fun _ _ _ hone => (fails_of_token hone).2) h

end Writer

namespace Reader

variable {role : Role} {tagLength : Nat}

/-- Of all that stops a reader at a token, only a refused opening is reported. -/
theorem token_error_events (lawful : Transcript.Lawful T) {r : Reader T} {t : Token}
    {stopped : Interruption (Reader T)} (h : r.token K role tagLength t = .error stopped) :
    stopped.events =
      if stopped.error = .authenticationFailure then [.staticKeyRejected] else [] := by
  have hfails := fails_of_token h
  generalize stopped.error = e, stopped.events = events at hfails ⊢
  cases hfails with
  | short => rfl
  | ephemeral _ hkey | static _ _ hkey =>
    cases PublicKey.ofBytes_error hkey
    rfl
  | refused hopen =>
    cases lawful.error_of_decrypt hopen
    rfl
  | secret hsecret => rcases Keyring.sharedSecret_error hsecret with rfl | rfl <;> rfl

theorem tokens_error_events (lawful : Transcript.Lawful T) {r : Reader T} {ts : List Token}
    {stopped : Interruption (Reader T)} (h : r.tokens K role tagLength ts = .error stopped) :
    stopped.events =
      if stopped.error = .authenticationFailure then [.staticKeyRejected] else [] :=
  Interruption.of_foldlM_error (fun _ _ _ => token_error_events lawful) h

end Reader

/-! ## Calls -/

namespace Handshake

theorem standing_finishStep (h : Handshake K T) (t : T) (keys : Keyring) (buffer : Bytes)
    (report : Event) :
    (((h.holding t keys).finishStep buffer report).events,
        ((h.holding t keys).finishStep buffer report).state.standing) =
      h.standing.advance report := by
  rw [finishStep_eq]
  unfold Standing.advance standing
  dsimp only
  split <;> rfl

theorem tagLength_finishStep (h : Handshake K T) {t : T} (keys : Keyring) (buffer : Bytes)
    (report : Event) (htag : Transcript.tagLength t = handshakeTagLength) :
    ((h.holding t keys).finishStep buffer report).state.tagLength = handshakeTagLength := by
  rw [finishStep_eq]
  split
  · exact htag
  · rfl

theorem verdict_finishStep (h : Handshake K T) (t : T) (keys : Keyring) (buffer : Bytes)
    (report : Event) : ((h.holding t keys).finishStep buffer report).verdict = .ok () := by
  rw [finishStep_eq]
  split <;> rfl

/-- A call that is understood from outside: its report and the standing it leads to follow from what
can be seen of it. -/
structure Told (h : Handshake K T) (o : Outcome K T) (glimpse : Glimpse) : Prop where
  told : (o.events, o.state.standing) = h.standing.tell glimpse
  tagLength : o.state.tagLength = handshakeTagLength

variable {h : Handshake K T}

theorem told_write (lawful : Transcript.Lawful T) (htag : h.tagLength = handshakeTagLength)
    (payload buffer : Bytes) (random : RandomStream) :
    h.Told (h.write payload buffer random).1 (h.glimpse (.write payload buffer random)) := by
  unfold glimpse write
  cases hstep : h.step? with
  | none => exact ⟨rfl, htag⟩
  | some step =>
    cases ht : h.transcript with
    | none => exact ⟨rfl, htag⟩
    | some t =>
      have hkept : Transcript.tagLength t = handshakeTagLength := by
        rw [← htag, tagLength, ht]
      have hlast := Writer.tokens_tagLength K h.role lawful.toSteady
        { transcript := t, keys := h.keys, random, message := [] } step.tokens
      dsimp only
      cases htokens : Writer.tokens K h.role
          { transcript := t, keys := h.keys, random, message := [] } step.tokens with
      | error stopped =>
        rw [htokens] at hlast
        have hsilent : stopped.events = [] := Writer.tokens_error_events htokens
        refine ⟨?_, hlast.trans hkept⟩
        dsimp only
        rw [hsilent]
        rfl
      | ok w =>
        rw [htokens] at hlast
        -- The tags of the segments have the length that the handshake started with.
        have hlength : (w.message ++ (Transcript.encrypt w.transcript payload []).1).length =
            step.tokenLength handshakeTagLength + handshakeTagLength + payload.length := by
          have hsealed := Writer.tokens_length lawful.toSteady lawful.length_encrypt htokens
          have htag : Transcript.tagLength w.transcript = handshakeTagLength := hlast.trans hkept
          rw [List.length_append, lawful.length_encrypt, hsealed, htag, hkept,
            Step.tokenLength_eq_sum, List.length_nil]
          omega
        have hfinal := lawful.tagLength_encrypt w.transcript payload []
        refine ⟨?_, tagLength_finishStep h _ _ _ (hfinal.trans (hlast.trans hkept))⟩
        dsimp only
        rw [verdict_finishStep, standing_finishStep, Standing.tell_write (s := h.standing) hstep,
          hlength]
        rfl

theorem told_read (lawful : Transcript.Lawful T) (htag : h.tagLength = handshakeTagLength)
    (message buffer : Bytes) :
    h.Told (h.read message buffer) (h.glimpse (.read message buffer)) := by
  unfold glimpse unopened read
  cases hstep : h.step? with
  | none => exact ⟨rfl, htag⟩
  | some step =>
    dsimp only
    by_cases hshort : message.length < step.tokenLength h.tagLength
    · rw [if_pos hshort]
      exact ⟨rfl, htag⟩
    · rw [if_neg hshort]
      cases ht : h.transcript with
      | none => exact ⟨rfl, htag⟩
      | some t =>
        have hkept : Transcript.tagLength t = handshakeTagLength := by
          rw [← htag, tagLength, ht]
        have hlast := Reader.tokens_tagLength K h.role h.tagLength lawful.toSteady
          { transcript := t, keys := h.keys, rest := message } step.tokens
        dsimp only
        cases htokens : Reader.tokens K h.role h.tagLength
            { transcript := t, keys := h.keys, rest := message } step.tokens with
        | error stopped =>
          rw [htokens] at hlast
          -- A token that stops the reader is silent, or it is that of a static key.
          have hevents := Reader.tokens_error_events lawful htokens
          have hreached : h.segmentReached message = .staticKey := by
            unfold segmentReached
            simp only [hstep, ht, htokens]
          refine ⟨?_, hlast.trans hkept⟩
          show (stopped.events, h.standing) = h.standing.tell (.read message.length
            (.error stopped.error) (if stopped.error = .authenticationFailure then _ else none))
          rw [hevents, hreached]
          unfold Standing.tell
          split <;> rfl
        | ok r =>
          rw [htokens] at hlast
          have hreached : h.segmentReached message = .payload := by
            unfold segmentReached
            simp only [hstep, ht, htokens]
          have hfinal := lawful.tagLength_decrypt r.transcript r.rest []
          dsimp only
          cases hopen : Transcript.decrypt r.transcript r.rest [] with
          | mk verdict u =>
            rw [hopen] at hfinal
            have hu : Transcript.tagLength u = handshakeTagLength :=
              hfinal.trans (hlast.trans hkept)
            cases verdict with
            | error e =>
              -- All tokens are read by now, so the segment that fails is the payload.
              have he : e = .authenticationFailure :=
                lawful.error_of_decrypt (congrArg Prod.fst hopen)
              subst he
              refine ⟨?_, hu⟩
              show ([Event.payloadRejected], h.standing) = h.standing.tell (.read message.length
                (.error .authenticationFailure) (some (h.segmentReached message)))
              rw [hreached]
              rfl
            | ok payload =>
              refine ⟨?_, tagLength_finishStep h _ _ _ hu⟩
              dsimp only
              rw [verdict_finishStep, standing_finishStep, Standing.tell_read (s := h.standing) hstep]
              rfl

/-- The length that is reported of a written message is that of what was appended to the buffer. -/
theorem written_write (h : Handshake K T) (payload buffer : Bytes) (random : RandomStream) :
    (h.write payload buffer random).1.events.filterMap Event.written? =
      match (h.write payload buffer random).1.result with
      | .error _ => []
      | .ok _ => [(h.write payload buffer random).1.buffer.length - buffer.length] := by
  unfold write
  cases h.step? with
  | none => rfl
  | some step =>
    cases h.transcript with
    | none => rfl
    | some t =>
      dsimp only
      cases htokens : Writer.tokens K h.role
          { transcript := t, keys := h.keys, random, message := [] } step.tokens with
      | error stopped =>
        have hsilent : stopped.events = [] := Writer.tokens_error_events htokens
        simp [abandon, hsilent]
      | ok w =>
        dsimp only
        rw [finishStep_eq]
        split <;> simp [Event.written?]

theorem told_perform (lawful : Transcript.Lawful T) (htag : h.tagLength = handshakeTagLength)
    (call : Call) : h.Told (h.perform call) (h.glimpse call) := by
  cases call with
  | write payload buffer random => exact told_write lawful htag payload buffer random
  | read message buffer => exact told_read lawful htag message buffer

/-! ## The start -/

theorem tagLength_mixPreMessage (lawful : Transcript.Lawful T) {keys : Keyring} {role owner : Role}
    {t u : T} {pre : List Token} (h : mixPreMessage keys role owner t pre = .ok u) :
    Transcript.tagLength u = Transcript.tagLength t := by
  induction pre generalizing t with
  | nil =>
    cases h
    rfl
  | cons token pre ih =>
    rw [mixPreMessage_cons] at h
    cases hkey : keys.staticKey role owner with
    | error e =>
      rw [hkey] at h
      cases h
    | ok key =>
      rw [hkey] at h
      exact (ih h).trans (lawful.tagLength_mixData _ _)

/-- A handshake that starts has found its pattern, reports its start and nothing else, and has
accepted tags of the length that all handshakes use. -/
theorem told_start (lawful : Transcript.Lawful T) {registry : Registry} {name : String} {role : Role}
    {prologue : Bytes} {keys : Keyring} {events : List Event}
    (started : start registry name role prologue keys = .ok (h, events)) :
    ∃ pattern, registry.get name = .ok pattern ∧ h.standing = ⟨pattern, role, 0⟩ ∧
      events = [.started pattern.name role] ∧ h.tagLength = handshakeTagLength := by
  unfold start at started
  cases hget : registry.get name with
  | error e =>
    rw [hget] at started
    cases started
  | ok pattern =>
    rw [hget] at started
    simp only [bind, Except.bind] at started
    split at started
    · cases started
    · next haccepted =>
      split at started
      · cases started
      · next t ht =>
        split at started
        · cases started
        · next u hu =>
          cases started
          refine ⟨pattern, rfl, rfl, rfl, ?_⟩
          show Transcript.tagLength u = handshakeTagLength
          rw [tagLength_mixPreMessage lawful hu, tagLength_mixPreMessage lawful ht,
            lawful.tagLength_mixData]
          exact lawful.tagLength_setTagLength _ _ haccepted

end Handshake

end DuplexHandshake
