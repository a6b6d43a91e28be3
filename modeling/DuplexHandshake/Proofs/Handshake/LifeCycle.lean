import DuplexHandshake.Curve25519.X25519
import DuplexHandshake.Proofs.Handshake.Attempt
import DuplexHandshake.Proofs.Transcript.Lockstep
import DuplexHandshake.Transcript.Recorder

/-!
# The life of a handshake

A handshake has its transcript exactly as long as a step of its pattern is left, and only a
successful call takes a step. So after any calls, in turn or out of it, the steps done are the calls
that succeeded, the last of them gives out the channels, and nothing happens afterwards.
-/

namespace DuplexHandshake.Handshake

variable {K : KeyAgreement} {T : Type}

theorem step?_isSome_iff (h : Handshake K T) :
    h.step?.isSome ↔ h.done < h.pattern.steps.length := by
  unfold step?
  rw [Option.isSome_iff_ne_none, ne_eq, List.getElem?_eq_none_iff]
  omega

theorem done_lt_of_step? {h : Handshake K T} {step : Step} (hstep : h.step? = some step) :
    h.done < h.pattern.steps.length := by
  rw [← step?_isSome_iff, hstep]
  rfl

theorem step?_eq_none_iff (h : Handshake K T) :
    h.step? = none ↔ h.pattern.steps.length ≤ h.done := by
  unfold step?
  rw [List.getElem?_eq_none_iff]

theorem phase_ne_finished_iff (h : Handshake K T) :
    h.phase ≠ .finished ↔ h.done < h.pattern.steps.length := by
  unfold phase
  by_cases hdone : h.pattern.steps.length ≤ h.done
  · rw [if_pos hdone]
    exact iff_of_false (fun hne => hne rfl) (by omega)
  · rw [if_neg hdone]
    apply iff_of_true
    · split <;> decide
    · omega

theorem phase_eq_fresh_iff (h : Handshake K T) : h.phase = .fresh ↔ h.done = 0 := by
  have hpos : 0 < h.pattern.steps.length := List.length_pos_iff.2 h.pattern.steps_ne_nil
  unfold phase
  by_cases hdone : h.pattern.steps.length ≤ h.done
  · rw [if_pos hdone]
    exact iff_of_false (by decide) (by omega)
  · rw [if_neg hdone]
    by_cases hzero : h.done = 0
    · rw [if_pos hzero]
      exact iff_of_true rfl hzero
    · rw [if_neg hzero]
      exact iff_of_false (by decide) hzero

theorem turn_ne_over_iff (h : Handshake K T) :
    h.turn ≠ .over ↔ h.done < h.pattern.steps.length := by
  rw [← step?_isSome_iff]
  unfold turn
  cases h.step? with
  | none => exact iff_of_false (fun hne => hne rfl) Bool.false_ne_true
  | some step =>
    apply iff_of_true
    · dsimp only
      split <;> decide
    · rfl

/-- What every reachable handshake keeps. -/
structure Lasting (h : Handshake K T) : Prop where
  done_le : h.done ≤ h.pattern.steps.length
  transcript_iff : h.transcript.isSome ↔ h.done < h.pattern.steps.length

variable [Transcript T]

/-- The calls among these that succeed, made one after another. -/
def successes (h : Handshake K T) : List Call → Nat
  | [] => 0
  | call :: rest =>
    (if (h.perform call).result.isOk then 1 else 0) + (h.perform call).state.successes rest

/-! ## One call -/

theorem finishStep_eq (h : Handshake K T) (t : T) (keys : Keyring) (buffer : Bytes)
    (report : Event) :
    (h.holding t keys).finishStep buffer report =
      if h.done + 1 < h.pattern.steps.length then
        { state := { h with transcript := some t, keys, done := h.done + 1 }
          buffer, events := [report], result := .ok none }
      else
        { state := { h with transcript := none, keys, done := h.done + 1 }
          buffer, events := [report, .split h.pattern.name h.role]
          result := .ok (some (.ofTranscript t)) } := by
  unfold finishStep
  by_cases hleft : h.done + 1 < h.pattern.steps.length
  · simp only [hleft, ↓reduceIte]
  · simp only [hleft, ↓reduceIte]

@[simp]
theorem finishStep_buffer (h : Handshake K T) (buffer : Bytes) (report : Event) :
    (h.finishStep buffer report).buffer = buffer := by
  unfold finishStep
  dsimp only
  split
  · rfl
  · split <;> rfl

@[simp]
theorem finishStep_state_done (h : Handshake K T) (buffer : Bytes) (report : Event) :
    (h.finishStep buffer report).state.done = h.done + 1 := by
  unfold finishStep
  dsimp only
  split
  · rfl
  · split <;> rfl

@[simp]
theorem finishStep_state_pattern (h : Handshake K T) (buffer : Bytes) (report : Event) :
    (h.finishStep buffer report).state.pattern = h.pattern := by
  unfold finishStep
  dsimp only
  split
  · rfl
  · split <;> rfl

theorem Attempt.pattern_eq {h : Handshake K T} {buffer : Bytes} {o : Outcome K T}
    (attempt : h.Attempt buffer o) : o.state.pattern = h.pattern := by
  cases attempt with
  | ended | malformed | stopped => rfl
  | finished t keys appended report => rw [finishStep_state_pattern]

theorem Attempt.buffer_of_error {h : Handshake K T} {buffer : Bytes} {o : Outcome K T}
    {e : HandshakeError} (attempt : h.Attempt buffer o) (herror : o.result = .error e) :
    o.buffer = buffer := by
  cases attempt with
  | ended | malformed | stopped => rfl
  | finished t keys appended report =>
    rw [finishStep_eq] at herror
    split at herror <;> cases herror

/-- What an attempt means for the place in the pattern. -/
structure Advances (h : Handshake K T) (o : Outcome K T) : Prop where
  lasting : o.state.Lasting
  pattern : o.state.pattern = h.pattern
  of_ok : ∀ channels, o.result = .ok channels →
    o.state.done = h.done + 1 ∧ (channels.isSome ↔ h.done + 1 = h.pattern.steps.length)
  of_error : ∀ e, o.result = .error e → o.state.done = h.done

theorem Attempt.advances {h : Handshake K T} {buffer : Bytes} {o : Outcome K T}
    (lasting : h.Lasting) (attempt : h.Attempt buffer o) : h.Advances o := by
  cases attempt with
  | ended _ =>
    exact ⟨lasting, rfl, fun _ hok => (nomatch hok), fun _ _ => rfl⟩
  | malformed _ =>
    exact ⟨lasting, rfl, fun _ hok => (nomatch hok), fun _ _ => rfl⟩
  | stopped t keys events error hstep _ _ =>
    have hleft : h.done < h.pattern.steps.length := h.step?_isSome_iff.1 hstep
    refine ⟨⟨lasting.done_le, ?_⟩, rfl, fun _ hok => (nomatch hok), fun _ _ => rfl⟩
    exact iff_of_true rfl hleft
  | finished t keys appended report hstep _ =>
    have hleft : h.done < h.pattern.steps.length := h.step?_isSome_iff.1 hstep
    rw [finishStep_eq]
    by_cases hmore : h.done + 1 < h.pattern.steps.length
    · rw [if_pos hmore]
      refine ⟨⟨hleft, iff_of_true rfl hmore⟩, rfl, ?_, fun _ herr => nomatch herr⟩
      intro channels hok
      cases hok
      exact ⟨rfl, iff_of_false Bool.false_ne_true (by omega)⟩
    · rw [if_neg hmore]
      refine ⟨⟨hleft, iff_of_false Bool.false_ne_true hmore⟩, rfl, ?_, fun _ herr => nomatch herr⟩
      intro channels hok
      cases hok
      exact ⟨rfl, iff_of_true rfl (by omega)⟩

theorem Lasting.advances {h : Handshake K T} (lasting : h.Lasting) (call : Call) :
    h.Advances (h.perform call) :=
  (h.attempt_perform call).advances lasting

/-- With a transcript whose own refusals are of another kind, a call is told that the handshake is
complete exactly when it is. -/
theorem Attempt.alreadyComplete_iff {h : Handshake K T} {buffer : Bytes} {o : Outcome K T}
    (lasting : h.Lasting) (attempt : h.Attempt buffer o)
    (honest : ¬ RefusalOf T .alreadyComplete) :
    o.result = .error .alreadyComplete ↔ h.done = h.pattern.steps.length := by
  have hle := lasting.done_le
  cases attempt with
  | ended hended =>
    apply iff_of_true rfl
    rcases hended with hstep | ht
    · have hnone := h.step?_eq_none_iff.1 hstep
      omega
    · have hgone : ¬ h.done < h.pattern.steps.length := by
        rw [← lasting.transcript_iff, ht]
        exact Bool.false_ne_true
      omega
  | malformed hstep =>
    have hleft := h.step?_isSome_iff.1 hstep
    exact iff_of_false (fun he => nomatch he) (by omega)
  | stopped t keys events error hstep _ herror =>
    have hleft := h.step?_isSome_iff.1 hstep
    apply iff_of_false
    · intro he
      cases he
      rcases herror with hne | hrefusal
      · exact hne rfl
      · exact honest hrefusal
    · omega
  | finished t keys appended report hstep _ =>
    have hleft := h.step?_isSome_iff.1 hstep
    apply iff_of_false
    · rw [finishStep_eq]
      split <;> exact fun he => nomatch he
    · omega

/-- The transcript over a duplex refuses what is not authentic, and for no other reason. -/
theorem not_refusalOf_duplexTranscript {permute : Block → Block} {e : HandshakeError}
    (he : e ≠ .authenticationFailure) : ¬ RefusalOf (DuplexTranscript permute) e := by
  rintro ⟨t, sealed, associated, herror⟩
  exact he (DuplexTranscript.error_of_decrypt herror)

theorem ended_of_done {h : Handshake K T} (hdone : h.done = h.pattern.steps.length) :
    (∀ payload buffer random,
        h.write payload buffer random = (h.refuse buffer .alreadyComplete, random)) ∧
      (∀ message buffer, h.read message buffer = h.refuse buffer .alreadyComplete) ∧
      ∀ length, h.messageLength length = .error .alreadyComplete := by
  have hstep : h.step? = none := h.step?_eq_none_iff.2 (Nat.le_of_eq hdone.symm)
  refine ⟨?_, ?_, ?_⟩
  · intro payload buffer random
    unfold write
    rw [hstep]
  · intro message buffer
    unfold read
    rw [hstep]
  · intro length
    unfold messageLength
    rw [hstep]

/-! ## Any number of calls -/

theorem after_cons (h : Handshake K T) (call : Call) (rest : List Call) :
    h.after (call :: rest) = (h.perform call).state.after rest :=
  rfl

theorem Lasting.after {h : Handshake K T} (lasting : h.Lasting) (calls : List Call) :
    (h.after calls).Lasting ∧ (h.after calls).pattern = h.pattern ∧
      (h.after calls).done = h.done + h.successes calls := by
  induction calls generalizing h with
  | nil => exact ⟨lasting, rfl, rfl⟩
  | cons call rest ih =>
    have hone := lasting.advances call
    have hrest := ih hone.lasting
    rw [after_cons]
    refine ⟨hrest.1, hrest.2.1.trans hone.pattern, ?_⟩
    rw [hrest.2.2, successes]
    -- The call took a step exactly if it succeeded.
    cases hresult : (h.perform call).result with
    | ok channels =>
      rw [(hone.of_ok channels hresult).1]
      simp only [Except.isOk, Except.toBool, ↓reduceIte]
      omega
    | error e =>
      rw [hone.of_error e hresult]
      simp only [Except.isOk, Except.toBool, Bool.false_eq_true, ↓reduceIte]
      omega

theorem lasting_of_start {registry : Registry} {name : String} {role : Role} {prologue : Bytes}
    {keys : Keyring} {h : Handshake K T} {events : List Event}
    (started : start registry name role prologue keys = .ok (h, events)) : h.Lasting := by
  rcases exists_of_start started with ⟨pattern, _, _, _, _, _, rfl⟩
  have hpos : 0 < pattern.steps.length := List.length_pos_iff.2 pattern.steps_ne_nil
  exact ⟨Nat.zero_le _, iff_of_true rfl hpos⟩

/-! ## The whole life -/

/-- What can be said of a handshake after any calls of which so many have succeeded. -/
structure InCourse (h : Handshake K T) (pattern : Pattern) (succeeded : Nat) : Prop where
  pattern_eq : h.pattern = pattern
  done_eq : h.done = succeeded
  done_le : h.done ≤ pattern.steps.length
  transcript_iff : h.transcript.isSome ↔ h.done < pattern.steps.length
  phase_iff : h.phase ≠ .finished ↔ h.done < pattern.steps.length
  turn_iff : h.turn ≠ .over ↔ h.done < pattern.steps.length
  fresh_iff : h.phase = .fresh ↔ h.done = 0
  /-- A success takes one step, and the last step alone gives out channels. -/
  of_ok : ∀ call channels, (h.perform call).result = .ok channels →
    (h.perform call).state.done = h.done + 1 ∧
      (channels.isSome ↔ succeeded + 1 = pattern.steps.length)
  of_error : ∀ call e, (h.perform call).result = .error e → (h.perform call).state.done = h.done
  /-- No call on an unfinished handshake finds the transcript missing. -/
  alreadyComplete_iff : ¬ RefusalOf T .alreadyComplete →
    ∀ call, (h.perform call).result = .error .alreadyComplete ↔ h.done = pattern.steps.length
  ended : h.done = pattern.steps.length →
    (∀ payload buffer random,
        h.write payload buffer random = (h.refuse buffer .alreadyComplete, random)) ∧
      (∀ message buffer, h.read message buffer = h.refuse buffer .alreadyComplete) ∧
      ∀ length, h.messageLength length = .error .alreadyComplete

/-- After any calls, in turn or out of it and whatever came of them, a handshake is in the course
that its pattern sets. -/
theorem inCourse_after {registry : Registry} {name : String} {role : Role} {prologue : Bytes}
    {keys : Keyring} {pattern : Pattern} {h : Handshake K T} {events : List Event}
    (registered : registry.get name = .ok pattern)
    (started : start registry name role prologue keys = .ok (h, events)) (calls : List Call) :
    (h.after calls).InCourse pattern (h.successes calls) := by
  have hafter := (lasting_of_start started).after calls
  rcases exists_of_start started with ⟨found, _, _, hget, _, _, hh⟩
  have hfound : found = pattern := Except.ok.inj (hget.symm.trans registered)
  have hpattern : (h.after calls).pattern = pattern := by rw [hafter.2.1, hh, hfound]
  have hdone : (h.after calls).done = h.successes calls := by
    rw [hafter.2.2, hh]
    exact Nat.zero_add _
  have lasting := hafter.1
  subst hpattern
  refine ⟨rfl, hdone, lasting.done_le, lasting.transcript_iff, phase_ne_finished_iff _,
    turn_ne_over_iff _, phase_eq_fresh_iff _, ?_, ?_, ?_, ended_of_done⟩
  · intro call channels hok
    rw [← hdone]
    exact (lasting.advances call).of_ok channels hok
  · intro call
    exact (lasting.advances call).of_error
  · intro honest call
    exact (attempt_perform _ call).alreadyComplete_iff lasting honest

/-- A read before there is a message changes nothing; the write after it takes the first step. -/
theorem inCourse_after_refused_read :
    ∃ (h : Handshake x25519 (Recorder {})) (events : List Event),
      Registry.standard.get "XX" = .ok .xx ∧
        start .standard "XX" .initiator [] {} = .ok (h, events) ∧
        (h.after [.read [] [], .write [7] [] (.cyclic [1])]).InCourse .xx 1 := by
  refine ⟨_, _, rfl, rfl, ?_⟩
  exact @inCourse_after x25519 (Recorder {}) _ .standard "XX" .initiator [] {} .xx _ _ rfl rfl
    [.read [] [], .write [7] [] (.cyclic [1])]

end DuplexHandshake.Handshake
