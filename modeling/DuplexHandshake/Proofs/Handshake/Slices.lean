import DuplexHandshake.Proofs.Handshake.Lengths

/-!
# Slices of a message

A reader may keep the whole message and the place it has come to, and cut each segment out where it
stands. Then a length that was checked wrongly would show: a slice would reach behind the end of the
message, or the payload begin there. The one check that is made before the first token excludes both,
and a message that does not pass it leaves no trace.
-/

namespace DuplexHandshake

/-! ## Places in a message -/

namespace Bytes

/-- The bytes from a place on, as many as asked for; `none` if the data does not reach that far. -/
def slice? (data : Bytes) (start n : Nat) : Option Bytes :=
  if start + n ≤ data.length then some ((data.drop start).take n) else none

/-- All bytes from a place on; `none` if the place lies behind the end. -/
def suffix? (data : Bytes) (start : Nat) : Option Bytes :=
  if start ≤ data.length then some (data.drop start) else none

theorem suffix?_of_le {data : Bytes} {start : Nat} (h : start ≤ data.length) :
    suffix? data start = some (data.drop start) :=
  if_pos h

/-- Cutting a slice out is cutting it off what is left at its place. -/
theorem split?_drop {data : Bytes} {start : Nat} (h : start ≤ data.length) (n : Nat) :
    split? n (data.drop start) =
      (slice? data start n).map fun segment => (segment, data.drop (start + n)) := by
  unfold split? slice?
  rw [List.length_drop]
  by_cases hn : start + n ≤ data.length
  · rw [if_pos hn, if_pos (by omega), List.splitAt_eq, List.drop_drop, Option.map_some]
  · rw [if_neg hn, if_neg (by omega), Option.map_none]

end Bytes

variable {K : KeyAgreement} {T : Type} [Transcript T] {role : Role} {tagLength : Nat}

/-- What a reader has in hand that keeps the whole message: a place in it instead of the rest. -/
structure Cursor (T : Type) where
  transcript : T
  keys : Keyring
  offset : Nat

namespace Cursor

def stop (c : Cursor T) (error : HandshakeError) (events : List Event) :
    Except (Interruption (Cursor T)) (Cursor T) :=
  .error { error, events, state := c }

def ephemeral (message : Bytes) (c : Cursor T) : Except (Interruption (Cursor T)) (Cursor T) :=
  match message.slice? c.offset keyLength with
  | none => c.stop .malformedMessage []
  | some segment =>
    match PublicKey.ofBytes segment with
    | .error e => c.stop e []
    | .ok key =>
      .ok
        { transcript := Transcript.receiveClear c.transcript segment
          keys := { c.keys with peerEphemeral := some key }
          offset := c.offset + keyLength }

def static (tagLength : Nat) (message : Bytes) (c : Cursor T) :
    Except (Interruption (Cursor T)) (Cursor T) :=
  match message.slice? c.offset (keyLength + tagLength) with
  | none => c.stop .malformedMessage []
  | some segment =>
    match Transcript.decrypt c.transcript segment [] with
    | (.error e, transcript) => { c with transcript }.stop e [.staticKeyRejected]
    | (.ok opened, transcript) =>
      match PublicKey.ofBytes opened with
      | .error e => { c with transcript }.stop e []
      | .ok key =>
        .ok
          { transcript
            keys := { c.keys with peerStatic := some key }
            offset := c.offset + (keyLength + tagLength) }

def token (K : KeyAgreement) (role : Role) (tagLength : Nat) (message : Bytes) (c : Cursor T) :
    Token → Except (Interruption (Cursor T)) (Cursor T)
  | .send .ephemeral => c.ephemeral message
  | .send .static => c.static tagLength message
  | .mix initiator responder =>
    match c.keys.sharedSecret K role initiator responder with
    | .error e => c.stop e []
    | .ok secret => .ok { c with transcript := Transcript.mixKey c.transcript secret.bytes.toList }

def tokens (K : KeyAgreement) (role : Role) (tagLength : Nat) (message : Bytes) (c : Cursor T)
    (ts : List Token) : Except (Interruption (Cursor T)) (Cursor T) :=
  ts.foldlM (token K role tagLength message) c

/-- The reader that has cut off what stands before this place. -/
def reader (message : Bytes) (c : Cursor T) : Reader T where
  transcript := c.transcript
  keys := c.keys
  rest := message.drop c.offset

/-- A token moves the place by the length that it takes up, and never behind the end. -/
theorem offset_of_token {message : Bytes} {c next : Cursor T} {t : Token}
    (hc : c.offset ≤ message.length) (h : c.token K role tagLength message t = .ok next) :
    next.offset = c.offset + t.length tagLength ∧ next.offset ≤ message.length := by
  unfold token at h
  split at h
  · unfold ephemeral Bytes.slice? at h
    by_cases hin : c.offset + keyLength ≤ message.length
    · rw [if_pos hin] at h
      dsimp only at h
      split at h
      · cases h
      · cases h
        exact ⟨rfl, hin⟩
    · rw [if_neg hin] at h
      cases h
  · unfold static Bytes.slice? at h
    by_cases hin : c.offset + (keyLength + tagLength) ≤ message.length
    · rw [if_pos hin] at h
      dsimp only at h
      split at h
      · cases h
      · split at h
        · cases h
        · cases h
          exact ⟨rfl, hin⟩
    · rw [if_neg hin] at h
      cases h
  · split at h
    · cases h
    · cases h
      exact ⟨rfl, hc⟩

theorem offset_of_tokens {message : Bytes} {c last : Cursor T} {ts : List Token}
    (hc : c.offset ≤ message.length) (h : c.tokens K role tagLength message ts = .ok last) :
    last.offset = c.offset + (ts.map (Token.length tagLength)).sum ∧
      last.offset ≤ message.length := by
  induction ts generalizing c with
  | nil =>
    cases h
    exact ⟨rfl, hc⟩
  | cons t ts ih =>
    rw [tokens, List.foldlM_cons] at h
    cases hone : c.token K role tagLength message t with
    | error stopped =>
      rw [hone] at h
      cases h
    | ok next =>
      rw [hone] at h
      obtain ⟨hmoved, hnext⟩ := offset_of_token hc hone
      obtain ⟨hlater, hlast⟩ := ih hnext h
      refine ⟨?_, hlast⟩
      rw [hlater, hmoved, List.map_cons, List.sum_cons, Nat.add_assoc]

/-- A token is read at its place as it is read off the front of the rest. -/
theorem token_reader {message : Bytes} {c : Cursor T} (hc : c.offset ≤ message.length) (t : Token) :
    (c.reader message).token K role tagLength t =
      Interruption.mapLast (reader message) (c.token K role tagLength message t) := by
  cases t with
  | send kind =>
    cases kind with
    | ephemeral =>
      unfold token Reader.token ephemeral Reader.ephemeral
      simp only [reader, Bytes.split?_drop hc]
      cases message.slice? c.offset keyLength with
      | none => rfl
      | some segment =>
        dsimp only [Option.map_some]
        cases PublicKey.ofBytes segment <;> rfl
    | static =>
      unfold token Reader.token static Reader.static
      simp only [reader, Bytes.split?_drop hc]
      cases message.slice? c.offset (keyLength + tagLength) with
      | none => rfl
      | some segment =>
        dsimp only [Option.map_some]
        obtain ⟨e | opened, u⟩ := Transcript.decrypt c.transcript segment []
        · rfl
        · dsimp only
          cases PublicKey.ofBytes opened <;> rfl
  | mix initiator responder =>
    unfold token Reader.token
    simp only [reader]
    cases c.keys.sharedSecret K role initiator responder <;> rfl

theorem tokens_reader {message : Bytes} {c : Cursor T} (hc : c.offset ≤ message.length)
    (ts : List Token) :
    (c.reader message).tokens K role tagLength ts =
      Interruption.mapLast (reader message) (c.tokens K role tagLength message ts) :=
  Interruption.foldlM_mapLast (P := fun c : Cursor T => c.offset ≤ message.length)
    (fun _ t hc => token_reader hc t) (fun _ _ _ hc hone => (offset_of_token hc hone).2) hc ts

/-- From the beginning of a message on, a reader that keeps it whole goes along with one that does
not. -/
theorem tokens_start (K : KeyAgreement) (role : Role) (tagLength : Nat) (message : Bytes) (t : T)
    (keys : Keyring) (ts : List Token) :
    Reader.tokens K role tagLength { transcript := t, keys, rest := message } ts =
      Interruption.mapLast (reader message) (tokens K role tagLength message ⟨t, keys, 0⟩ ts) :=
  tokens_reader (c := ⟨t, keys, 0⟩) (Nat.zero_le message.length) ts

theorem offset_start {message : Bytes} {t : T} {keys : Keyring} {ts : List Token} {last : Cursor T}
    (h : tokens K role tagLength message ⟨t, keys, 0⟩ ts = .ok last) :
    last.offset = (ts.map (Token.length tagLength)).sum ∧ last.offset ≤ message.length := by
  obtain ⟨hoffset, hin⟩ := offset_of_tokens (Nat.zero_le message.length) h
  exact ⟨hoffset.trans (Nat.zero_add _), hin⟩

end Cursor

/-! ## The one check -/

theorem Transcript.Strict.not_refusalOf (strict : Transcript.Strict T) :
    ¬ RefusalOf T .malformedMessage := by
  rintro ⟨t, sealed, associated, herror⟩
  exact strict.not_malformed t sealed associated herror

namespace Reader

/-- With bytes enough for a token, its segment is never found too short. -/
theorem token_error_ne_malformed (honest : ¬ RefusalOf T .malformedMessage) {r : Reader T} {t : Token}
    {stopped : Interruption (Reader T)} (hlong : t.length tagLength ≤ r.rest.length)
    (h : r.token K role tagLength t = .error stopped) : stopped.error ≠ .malformedMessage := by
  have hfails := fails_of_token h
  generalize stopped.error = e, stopped.events = events at hfails ⊢
  rintro rfl
  cases hfails with
  | short _ hshort => exact absurd hlong (Nat.not_le_of_lt hshort)
  | ephemeral _ hkey | static _ _ hkey => cases PublicKey.ofBytes_error hkey
  | refused hopen => exact honest ⟨_, _, _, hopen⟩
  | secret hsecret => rcases Keyring.sharedSecret_error hsecret with he | he <;> cases he

theorem tokens_error_ne_malformed (honest : ¬ RefusalOf T .malformedMessage) {r : Reader T} {ts : List Token}
    {stopped : Interruption (Reader T)}
    (hlong : (ts.map (Token.length tagLength)).sum ≤ r.rest.length)
    (h : r.tokens K role tagLength ts = .error stopped) : stopped.error ≠ .malformedMessage := by
  induction ts generalizing r with
  | nil => cases h
  | cons t ts ih =>
    rw [List.map_cons, List.sum_cons] at hlong
    rw [tokens_cons] at h
    cases hone : r.token K role tagLength t with
    | error early =>
      rw [hone] at h
      cases h
      exact token_error_ne_malformed honest (by omega) hone
    | ok next =>
      rw [hone] at h
      -- The token has taken its own length off, so that enough is left for the others.
      obtain ⟨segment, htakes⟩ := token_eq_ok_iff.1 hone
      have hrest := congrArg List.length htakes.rest_eq
      rw [List.length_append, htakes.length_eq] at hrest
      exact ih (by omega) h

end Reader

namespace Handshake

/-- Reads a message by slices; `none` if the payload should begin behind its end. -/
def readBySlices (h : Handshake K T) (message buffer : Bytes) : Option (Outcome K T) :=
  match h.step? with
  | none => some (h.refuse buffer .alreadyComplete)
  | some step =>
    if message.length < step.tokenLength h.tagLength then some (h.refuse buffer .malformedMessage)
    else
      match h.transcript with
      | none => some (h.refuse buffer .alreadyComplete)
      | some transcript =>
        match Cursor.tokens K h.role h.tagLength message { transcript, keys := h.keys, offset := 0 }
            step.tokens with
        | .error stopped =>
          let c := stopped.state
          some (h.abandon c.transcript c.keys buffer stopped.events stopped.error)
        | .ok c =>
          (message.suffix? c.offset).map fun rest =>
            match Transcript.decrypt c.transcript rest [] with
            | (.error e, t) => h.abandon t c.keys buffer [.payloadRejected] e
            | (.ok payload, t) =>
              (h.holding t c.keys).finishStep (buffer ++ payload)
                (.read h.done step.tokens.length message.length)

/-- Reading by slices never falls out of the message, and is reading. -/
theorem readBySlices_eq (h : Handshake K T) (message buffer : Bytes) :
    h.readBySlices message buffer = some (h.read message buffer) := by
  unfold readBySlices read
  cases h.step? with
  | none => rfl
  | some step =>
    dsimp only
    by_cases hshort : message.length < step.tokenLength h.tagLength
    · rw [if_pos hshort, if_pos hshort]
    · rw [if_neg hshort, if_neg hshort]
      cases h.transcript with
      | none => rfl
      | some t =>
        dsimp only
        rw [Cursor.tokens_start]
        cases hlast : Cursor.tokens K h.role h.tagLength message ⟨t, h.keys, 0⟩ step.tokens with
        | error stopped => rfl
        | ok c =>
          have hin := (Cursor.offset_start hlast).2
          dsimp only
          rw [Bytes.suffix?_of_le hin]
          rfl

/-- How a handshake with this step to come minds the length of a message. -/
structure LengthChecked (h : Handshake K T) (step : Step) : Prop where
  /-- A message is malformed exactly if it is too short for the keys of the step. -/
  malformed_iff : ∀ message buffer,
    (h.read message buffer).result = .error .malformedMessage ↔
      message.length < keyLength * step.tokens.count (.send .ephemeral) +
        (keyLength + h.tagLength) * step.tokens.count (.send .static)
  /-- It leaves no trace then, and whatever is called next goes as if it had never arrived. -/
  untouched : ∀ message buffer, (h.read message buffer).result = .error .malformedMessage →
    (h.read message buffer).state = h ∧ (h.read message buffer).buffer = buffer ∧
      ∀ call, (h.read message buffer).state.perform call = h.perform call
  /-- Of a message that is long enough, the segment of every token lies within it. -/
  in_range : ∀ message transcript before token rest c,
    step.tokenLength h.tagLength ≤ message.length → h.transcript = some transcript →
      step.tokens = before ++ token :: rest →
        Cursor.tokens K h.role h.tagLength message ⟨transcript, h.keys, 0⟩ before = .ok c →
          c.offset + token.length h.tagLength ≤ message.length
  no_malformed_token : ∀ message transcript stopped,
    step.tokenLength h.tagLength ≤ message.length → h.transcript = some transcript →
      Cursor.tokens K h.role h.tagLength message ⟨transcript, h.keys, 0⟩ step.tokens =
        .error stopped → stopped.error ≠ .malformedMessage
  /-- The payload begins within the message, too: reading by slices always comes to an end. -/
  readBySlices_eq : ∀ message buffer, h.readBySlices message buffer = some (h.read message buffer)
  /-- A message that ends before the tag of its payload is refused, but not as malformed. The tag is
  as long as the transcript says when it comes to the payload. -/
  short_payload : ∀ message buffer transcript,
    step.tokenLength h.tagLength ≤ message.length → h.transcript = some transcript →
      (∀ c, Cursor.tokens K h.role h.tagLength message ⟨transcript, h.keys, 0⟩ step.tokens = .ok c →
        message.length < step.tokenLength h.tagLength + Transcript.tagLength c.transcript) →
        ∃ e, (h.read message buffer).result = .error e ∧ e ≠ .malformedMessage
  /-- With a transcript that keeps the length of its tags, that is the length from before. -/
  short_payload_of_steady : Transcript.Steady T → ∀ message buffer,
    step.tokenLength h.tagLength ≤ message.length →
      message.length < step.tokenLength h.tagLength + h.tagLength →
        ∃ e, (h.read message buffer).result = .error e ∧ e ≠ .malformedMessage

variable {h : Handshake K T} {step : Step}

/-- With bytes enough for the tokens, there is nothing to call malformed. -/
theorem read_ne_malformed (strict : Transcript.Strict T) (hstep : h.step? = some step)
    {message : Bytes} (hlong : step.tokenLength h.tagLength ≤ message.length) (buffer : Bytes) :
    (h.read message buffer).result ≠ .error .malformedMessage := by
  intro hmalformed
  cases unread_of_error hmalformed with
  | ended he => cases he
  | short step' _ hstep' hshort =>
    cases hstep.symm.trans hstep'
    omega
  | stopped step' t stopped he hstep' _ _ hr =>
    cases hstep.symm.trans hstep'
    rw [Step.tokenLength_eq_sum] at hlong
    exact Reader.tokens_error_ne_malformed strict.not_refusalOf hlong hr he
  | refused hrefusal => exact strict.not_refusalOf hrefusal

theorem read_of_short (hstep : h.step? = some step) {message : Bytes}
    (hshort : message.length < step.tokenLength h.tagLength) (buffer : Bytes) :
    h.read message buffer = h.refuse buffer .malformedMessage := by
  unfold read
  rw [hstep]
  exact if_pos hshort

theorem malformed_iff (strict : Transcript.Strict T) (hstep : h.step? = some step)
    (message buffer : Bytes) :
    (h.read message buffer).result = .error .malformedMessage ↔
      message.length < step.tokenLength h.tagLength := by
  constructor
  · intro hmalformed
    by_cases hshort : message.length < step.tokenLength h.tagLength
    · exact hshort
    · exact absurd hmalformed (read_ne_malformed strict hstep (Nat.le_of_not_lt hshort) buffer)
  · intro hshort
    rw [read_of_short hstep hshort]
    rfl

/-- A read that succeeds has come to a place behind the tokens, with room for a tag behind it. -/
theorem room_of_read (strict : Transcript.Strict T) (hstep : h.step? = some step)
    {message buffer : Bytes} (hok : (h.read message buffer).result.isOk) :
    ∃ t c, h.transcript = some t ∧
      Cursor.tokens K h.role h.tagLength message ⟨t, h.keys, 0⟩ step.tokens = .ok c ∧
      step.tokenLength h.tagLength + Transcript.tagLength c.transcript ≤ message.length := by
  obtain ⟨channels, hresult⟩ := exists_eq_ok_of_isOk hok
  obtain ⟨step', t, r, payload, hstep', ht, _, hr, hopen, _⟩ := read_of_ok hresult
  cases Option.some.inj (hstep.symm.trans hstep')
  rw [Cursor.tokens_start] at hr
  cases hlast : Cursor.tokens K h.role h.tagLength message ⟨t, h.keys, 0⟩ step.tokens with
  | error stopped =>
    rw [hlast] at hr
    cases hr
  | ok c =>
    rw [hlast] at hr
    cases hr
    refine ⟨t, c, ht, hlast, ?_⟩
    obtain ⟨hoffset, hin⟩ := Cursor.offset_start hlast
    rw [← Step.tokenLength_eq_sum] at hoffset
    -- A payload without room for a tag would not have been opened.
    by_cases hroom : (message.drop c.offset).length < Transcript.tagLength c.transcript
    · have hrefused : (Transcript.decrypt c.transcript (message.drop c.offset) []).1 =
          .error .authenticationFailure := strict.decrypt_of_short [] hroom
      rw [Cursor.reader, hrefused] at hopen
      cases hopen
    · rw [List.length_drop] at hroom
      omega

theorem error_of_not_ok (strict : Transcript.Strict T) (hstep : h.step? = some step)
    {message buffer : Bytes} (hlong : step.tokenLength h.tagLength ≤ message.length)
    (hfail : ¬ (h.read message buffer).result.isOk) :
    ∃ e, (h.read message buffer).result = .error e ∧ e ≠ .malformedMessage := by
  have hkind := read_ne_malformed strict hstep hlong buffer
  cases hresult : (h.read message buffer).result with
  | error e =>
    rw [hresult] at hkind
    exact ⟨e, rfl, fun he => hkind (congrArg Except.error he)⟩
  | ok channels =>
    rw [hresult] at hfail
    exact absurd rfl hfail

/-- Every handshake that has a step to come minds the length of a message, whatever the tokens of the
step and the length of the tags. -/
theorem lengthChecked (strict : Transcript.Strict T) (hstep : h.step? = some step) :
    h.LengthChecked step where
  malformed_iff message buffer := by
    rw [malformed_iff strict hstep, Step.tokenLength_eq_count]
  untouched message buffer hmalformed := by
    rw [read_of_short hstep ((malformed_iff strict hstep message buffer).1 hmalformed)]
    exact ⟨rfl, rfl, fun _ => rfl⟩
  in_range message transcript before token rest c hlong _ hsplit hbefore := by
    have hoffset := (Cursor.offset_start hbefore).1
    rw [Step.tokenLength_eq_sum, hsplit, List.map_append, List.sum_append, List.map_cons,
      List.sum_cons] at hlong
    omega
  no_malformed_token message transcript stopped hlong _ hstopped := by
    have htokens := Cursor.tokens_start K h.role h.tagLength message transcript h.keys step.tokens
    rw [hstopped] at htokens
    rw [Step.tokenLength_eq_sum] at hlong
    have hkind := Reader.tokens_error_ne_malformed strict.not_refusalOf hlong htokens
    exact hkind
  readBySlices_eq := h.readBySlices_eq
  short_payload message buffer transcript hlong ht hshort := by
    apply error_of_not_ok strict hstep hlong
    intro hok
    obtain ⟨t, c, ht', hc, hroom⟩ := room_of_read strict hstep hok
    cases Option.some.inj (ht.symm.trans ht')
    have hlast := hshort c hc
    omega
  short_payload_of_steady steady message buffer hlong hshort := by
    apply error_of_not_ok strict hstep hlong
    intro hok
    obtain ⟨t, c, ht, hc, hroom⟩ := room_of_read strict hstep hok
    have htokens := Cursor.tokens_start K h.role h.tagLength message t h.keys step.tokens
    rw [hc] at htokens
    have htag : Transcript.tagLength c.transcript = Transcript.tagLength t :=
      Reader.tagLength_of_tokens steady htokens
    rw [tagLength_of_transcript ht] at hroom hshort
    omega

/-- The answer in mutual authentication, which a transcript that insists on tags of 20 bytes expects to
have 84 bytes before its payload. -/
theorem lengthChecked_answer :
    let answer : Step := ⟨.toInitiator,
      [.send .ephemeral, .mix .ephemeral .ephemeral, .send .static, .mix .ephemeral .static]⟩
    ∃ (h : Handshake x25519 (Recorder { forced := some 20 })) (events : List Event),
      start .standard "XX" .initiator [1] {} = .ok (h, events) ∧
        (h.after [.write [] [] (.cyclic [1])]).step? = some answer ∧
        (h.after [.write [] [] (.cyclic [1])]).LengthChecked answer ∧
        ((h.after [.write [] [] (.cyclic [1])]).read (List.replicate 83 0) []).result =
          .error .malformedMessage := by
  intro answer
  refine ⟨_, _, rfl, rfl, lengthChecked Recorder.strict rfl, ?_⟩
  exact (malformed_iff Recorder.strict (show _ = some answer from rfl) _ _).2 (by decide)

end Handshake

end DuplexHandshake
