import DuplexHandshake.Curve25519.X25519
import DuplexHandshake.Handshake.Setup
import DuplexHandshake.Proofs.Handshake.Binding
import DuplexHandshake.Proofs.Handshake.LifeCycle

/-!
# Agreement

Over an ideal transcript a reader takes a message from nobody but the peer it is in agreement with.
A history grows by one entry for every token and every payload, so that its length says how far the
handshake has come, and no two seals of one side are made at the same length.
-/

namespace DuplexHandshake

/-- How much a transcript has taken in by the time so many steps are done. -/
def Pattern.absorbed (p : Pattern) (done : Nat) : Nat :=
  2 + p.initiatorPre.length + p.responderPre.length +
    ((p.steps.take done).map fun step => step.tokens.length + 1).sum

theorem Pattern.absorbed_succ (p : Pattern) {done : Nat} {step : Step}
    (h : p.steps[done]? = some step) :
    p.absorbed (done + 1) = p.absorbed done + step.tokens.length + 1 := by
  unfold absorbed
  rw [List.take_add_one, h, List.map_append, List.sum_append]
  simp only [Option.toList_some, List.map_cons, List.map_nil, List.sum_cons, List.sum_nil]
  omega

theorem PublicKey.toBytes_inj {x y : PublicKey} (h : x.toBytes = y.toBytes) : x = y := by
  have hx := PublicKey.ofBytes_toBytes x
  rw [h, PublicKey.ofBytes_toBytes y] at hx
  exact (Except.ok.inj hx).symm

namespace Handshake

variable {K : KeyAgreement} {T : Type} [Transcript T]

def sealsOf (h : Handshake K T) : Call → List (Sealing T)
  | .write payload _ random =>
    match h.step?, h.transcript with
    | some step, some t =>
      Writer.seals K h.role payload { transcript := t, keys := h.keys, random, message := [] }
        step.tokens
    | _, _ => []
  | .read .. => []

/-- The seals that are made by calls, one after another. -/
def sealsAlong (h : Handshake K T) : List Call → List (Sealing T)
  | [] => []
  | call :: rest => h.sealsOf call ++ (h.perform call).state.sealsAlong rest

/-- Each of these calls succeeds, made one after another. -/
def Succeeds (h : Handshake K T) : List Call → Prop
  | [] => True
  | call :: rest => (h.perform call).result.isOk ∧ (h.perform call).state.Succeeds rest

/-! ## How far a history has come -/

/-- What is known of the history of a handshake that began in a certain way, and of the seals it has
made since. -/
structure Recorded (H : History T) (pattern : Pattern) (opening : List Absorbed)
    (h : Handshake K T) (seals : List (Sealing T)) : Prop where
  pattern_eq : h.pattern = pattern
  opening : ∀ t, h.transcript = some t → opening <+: H.of t
  length : ∀ t, h.transcript = some t → (H.of t).length = pattern.absorbed h.done
  seals : ∀ s ∈ seals, (H.of s.before).length < pattern.absorbed h.done

/-- What a successful call takes in and seals. -/
structure Progress (H : History T) (h : Handshake K T) (t : T) (step : Step) (call : Call) :
    Prop where
  entries : ∀ u, (h.perform call).state.transcript = some u →
    ∃ entries, H.of u = H.of t ++ entries ∧ entries.length = step.tokens.length + 1
  seals : ∀ s ∈ h.sealsOf call,
    (H.of s.before).length ≤ (H.of t).length + step.tokens.length
  done : (h.perform call).state.done = h.done + 1
  pattern : (h.perform call).state.pattern = h.pattern

theorem finishStep_transcript {h : Handshake K T} {t u : T} {keys : Keyring} {buffer : Bytes}
    {report : Event}
    (hu : ((h.holding t keys).finishStep buffer report).state.transcript = some u) : u = t := by
  rw [finishStep_eq] at hu
  split at hu
  · exact (Option.some.inj hu).symm
  · cases hu

theorem progress_of_ok (H : History T) {h : Handshake K T} {call : Call}
    (hok : (h.perform call).result.isOk) :
    ∃ t step, h.transcript = some t ∧ h.step? = some step ∧ Progress H h t step call := by
  rcases exists_eq_ok_of_isOk hok with ⟨channels, hresult⟩
  cases call with
  | write payload buffer random =>
    rcases write_of_ok hresult with ⟨step, t, w, hstep, ht, hw, hwrite⟩
    have hstate : (h.perform (.write payload buffer random)).state =
      (h.write payload buffer random).1.state := rfl
    refine ⟨t, step, ht, hstep, ?_, ?_, ?_, ?_⟩
    · intro u hu
      rw [hstate, hwrite] at hu
      rcases Writer.entries_of_tokens H hw with ⟨entries, htokens, hlength⟩
      refine ⟨entries ++ [.sealed payload []], ?_, ?_⟩
      · rw [finishStep_transcript hu, H.encrypt, htokens, List.append_assoc]
      · rw [List.length_append, hlength, List.length_singleton]
    · intro s hs
      unfold sealsOf at hs
      rw [hstep, ht] at hs
      exact (Writer.length_of_mem_seals H hs).2
    · rw [hstate, hwrite, finishStep_state_done]
    · rw [hstate, hwrite, finishStep_state_pattern]
  | read message buffer =>
    rcases read_of_ok hresult with ⟨step, t, r, payload, hstep, ht, _, hr, hopen, hread⟩
    have hstate : (h.perform (.read message buffer)).state = (h.read message buffer).state := rfl
    refine ⟨t, step, ht, hstep, ?_, ?_, ?_, ?_⟩
    · intro u hu
      rw [hstate, hread] at hu
      rcases Reader.entries_of_tokens H hr with ⟨entries, htokens, hlength⟩
      refine ⟨entries ++ [.sealed payload []], ?_, ?_⟩
      · rw [finishStep_transcript hu, H.decrypt _ _ _ _ hopen, htokens, List.append_assoc]
      · rw [List.length_append, hlength, List.length_singleton]
    · intro s hs
      cases hs
    · rw [hstate, hread, finishStep_state_done]
    · rw [hstate, hread, finishStep_state_pattern]

theorem Recorded.step {H : History T} {pattern : Pattern} {opening : List Absorbed} {h : Handshake K T}
    {seals : List (Sealing T)} (recorded : Recorded H pattern opening h seals) {call : Call}
    (hok : (h.perform call).result.isOk) :
    Recorded H pattern opening (h.perform call).state (seals ++ h.sealsOf call) := by
  rcases progress_of_ok H hok with ⟨t, step, ht, hstep, progress⟩
  have hlength := recorded.length t ht
  have habsorbed : pattern.absorbed (h.perform call).state.done =
      pattern.absorbed h.done + step.tokens.length + 1 := by
    rw [progress.done]
    apply pattern.absorbed_succ
    rw [← recorded.pattern_eq]
    exact hstep
  refine ⟨progress.pattern.trans recorded.pattern_eq, ?_, ?_, ?_⟩
  · intro u hu
    rcases progress.entries u hu with ⟨entries, hentries, _⟩
    rw [hentries]
    exact (recorded.opening t ht).trans (List.prefix_append _ _)
  · intro u hu
    rcases progress.entries u hu with ⟨entries, hentries, hcount⟩
    rw [habsorbed, hentries, List.length_append, hcount, hlength]
    omega
  · intro s hs
    rw [habsorbed]
    rcases List.mem_append.1 hs with hearlier | hnow
    · have hbound := recorded.seals s hearlier
      omega
    · have hbound := progress.seals s hnow
      omega

theorem Recorded.after {H : History T} {pattern : Pattern} {opening : List Absorbed} {h : Handshake K T}
    {seals : List (Sealing T)} (recorded : Recorded H pattern opening h seals) {calls : List Call}
    (hok : h.Succeeds calls) :
    Recorded H pattern opening (h.after calls) (seals ++ h.sealsAlong calls) := by
  induction calls generalizing h seals with
  | nil =>
    rw [sealsAlong, List.append_nil]
    exact recorded
  | cons call rest ih =>
    rw [sealsAlong, ← List.append_assoc]
    exact ih (recorded.step hok.1) hok.2

theorem sealsAlong_append (h : Handshake K T) (calls : List Call) (last : Call) :
    h.sealsAlong (calls ++ [last]) = h.sealsAlong calls ++ (h.after calls).sealsOf last := by
  induction calls generalizing h with
  | nil => exact List.append_nil _
  | cons call rest ih =>
    rw [List.cons_append, sealsAlong, ih, sealsAlong, List.append_assoc]
    rfl

/-! ## How a history begins -/

theorem of_preamble (H : History T) (pattern : Pattern) (prologue : Bytes) :
    H.of (preamble pattern prologue) =
      [.label (Bytes.ofText (protocolLabel ++ pattern.name)), .data prologue] := by
  unfold preamble
  dsimp only
  rw [H.mixData, H.setTagLength, H.start]
  rfl

/-- Entries of the static key of a side, as a party knows it. -/
def KeyEntries (keys : Keyring) (role owner : Role) (entries : List Absorbed) : Prop :=
  ∀ a ∈ entries, ∃ key, keys.staticKey role owner = .ok key ∧ a = .data key.toBytes

theorem keyEntries_of_mixPreMessage (H : History T) {keys : Keyring} {role owner : Role}
    {pre : List Token} {t u : T} (hu : mixPreMessage keys role owner t pre = .ok u) :
    ∃ entries, H.of u = H.of t ++ entries ∧ entries.length = pre.length ∧
      KeyEntries keys role owner entries := by
  induction pre generalizing t with
  | nil =>
    cases hu
    exact ⟨[], (List.append_nil _).symm, rfl, fun a ha => nomatch ha⟩
  | cons token pre ih =>
    rw [mixPreMessage_cons] at hu
    split at hu
    · next key hkey =>
      rcases ih hu with ⟨entries, hentries, hlength, hkeys⟩
      rw [H.mixData, List.append_assoc, List.singleton_append] at hentries
      refine ⟨_, hentries, congrArg (· + 1) hlength, ?_⟩
      intro a ha
      rcases List.mem_cons.1 ha with hfirst | hrest
      · exact ⟨key, hkey, hfirst⟩
      · exact hkeys a hrest
    · cases hu

/-- Equal entries are of equal keys, if there are any. -/
theorem staticKey_eq_of_entries {keysw keysr : Keyring} {rolew roler owner : Role}
    {entries : List Absorbed} (hne : entries ≠ []) (hw : KeyEntries keysw rolew owner entries)
    (hr : KeyEntries keysr roler owner entries) :
    keysw.staticKey rolew owner = keysr.staticKey roler owner := by
  cases entries with
  | nil => exact absurd rfl hne
  | cons a rest =>
    rcases hw a List.mem_cons_self with ⟨mine, hmine, ha⟩
    rcases hr a List.mem_cons_self with ⟨theirs, htheirs, hb⟩
    have hbytes : mine.toBytes = theirs.toBytes := Absorbed.data.inj (ha.symm.trans hb)
    rw [hmine, htheirs, PublicKey.toBytes_inj hbytes]

/-- How the history of a handshake begins: label, prologue, and the keys known beforehand. -/
def Begins (pattern : Pattern) (s : Setup) (role : Role) (opening : List Absorbed) : Prop :=
  ∃ first second,
    opening = .label (Bytes.ofText (protocolLabel ++ pattern.name)) :: .data s.prologue ::
      (first ++ second) ∧
    first.length = pattern.initiatorPre.length ∧ second.length = pattern.responderPre.length ∧
    KeyEntries s.keys role .initiator first ∧ KeyEntries s.keys role .responder second

theorem recorded_of_start (H : History T) {s : Setup} {pattern : Pattern} {role : Role}
    {h : Handshake K T} {events : List Event} (registered : s.registry.get s.pattern = .ok pattern)
    (started : s.start role = .ok (h, events)) :
    ∃ opening, Begins pattern s role opening ∧ opening.length = pattern.absorbed 0 ∧
      Recorded H pattern opening h [] := by
  rcases exists_of_start started with ⟨found, t, u, hget, ht, hu, rfl⟩
  have hfound : found = pattern := Except.ok.inj (hget.symm.trans registered)
  subst hfound
  rcases keyEntries_of_mixPreMessage H ht with ⟨first, hfirst, hcount, hkeys⟩
  rcases keyEntries_of_mixPreMessage H hu with ⟨second, hsecond, hcount', hkeys'⟩
  rw [hfirst, of_preamble, List.append_assoc] at hsecond
  have hlength : (H.of u).length = found.absorbed 0 := by
    rw [hsecond]
    simp only [Pattern.absorbed, List.length_append, List.length_cons, List.length_nil, hcount,
      hcount', List.take_zero, List.map_nil, List.sum_nil]
    omega
  refine ⟨H.of u, ⟨first, second, hsecond, hcount, hcount', hkeys, hkeys'⟩, hlength, rfl, ?_, ?_, ?_⟩
  · intro v hv
    cases hv
    exact List.prefix_refl _
  · intro v hv
    cases hv
    exact hlength
  · intro s hs
    cases hs

/-! ## Agreement -/

/-- What two sides have in common: all that they have taken in, from the label and the prologue to
what the messages carried and the secrets between. -/
structure Agreed (H : History T) (pattern : Pattern) (sw sr : Setup) (rolew roler : Role)
    (w r : Handshake K T) : Prop where
  history : ∃ t u, w.transcript = some t ∧ r.transcript = some u ∧ H.of t = H.of u
  prologue : sw.prologue = sr.prologue
  initiator_key : pattern.initiatorPre ≠ [] →
    sw.keys.staticKey rolew .initiator = sr.keys.staticKey roler .initiator
  responder_key : pattern.responderPre ≠ [] →
    sw.keys.staticKey rolew .responder = sr.keys.staticKey roler .responder

/-- Histories that are equal began alike. -/
theorem agreed_of_history {H : History T} {pattern : Pattern} {sw sr : Setup} {rolew roler : Role}
    {w r : Handshake K T} {openw openr : List Absorbed} {sealsw sealsr : List (Sealing T)}
    {t u : T} (hw : Begins pattern sw rolew openw) (hr : Begins pattern sr roler openr)
    (hlength : openw.length = openr.length) (recw : Recorded H pattern openw w sealsw)
    (recr : Recorded H pattern openr r sealsr) (ht : w.transcript = some t) (hu : r.transcript = some u)
    (hhistory : H.of t = H.of u) : Agreed H pattern sw sr rolew roler w r := by
  have hprefixw := recw.opening t ht
  have hprefixr := recr.opening u hu
  rw [hhistory] at hprefixw
  have hprefix := List.prefix_of_prefix_length_le hprefixw hprefixr (Nat.le_of_eq hlength)
  have hopen : openw = openr := hprefix.eq_of_length hlength
  rcases hw with ⟨firstw, secondw, heqw, hcountw, hcountw', hkeysw, hkeysw'⟩
  rcases hr with ⟨firstr, secondr, heqr, hcountr, hcountr', hkeysr, hkeysr'⟩
  rw [heqw, heqr] at hopen
  have htails := (List.cons.inj (List.cons.inj hopen).2)
  have hprologue : sw.prologue = sr.prologue := Absorbed.data.inj htails.1
  rcases List.append_inj htails.2 (hcountw.trans hcountr.symm) with ⟨hfirst, hsecond⟩
  subst hfirst
  subst hsecond
  refine ⟨⟨t, u, ht, hu, hhistory⟩, hprologue, ?_, ?_⟩
  · intro hne
    have hfirst : firstw ≠ [] := by
      rw [← List.length_pos_iff, hcountw, List.length_pos_iff]
      exact hne
    exact staticKey_eq_of_entries hfirst hkeysw hkeysr
  · intro hne
    have hsecond : secondw ≠ [] := by
      rw [← List.length_pos_iff, hcountw', List.length_pos_iff]
      exact hne
    exact staticKey_eq_of_entries hsecond hkeysw' hkeysr'

/-- A reader that comes to the end of a message is at one with the writer of the step's message. -/
theorem read_of_genuine {H : History T} {w r : Handshake K T} {payload out message : Bytes}
    {random : RandomStream} {channels : Option (Channels T)} {seals : List (Sealing T)} {t u : T}
    (genuine : H.Genuine seals) (hstep : r.step? = w.step?) (ht : w.transcript = some t)
    (hu : r.transcript = some u) (hlength : (H.of u).length = (H.of t).length)
    (hwrite : (w.write payload out random).1.result = .ok channels)
    (hout : (w.write payload out random).1.buffer = out ++ message)
    (hfuture : ∀ s ∈ seals, (H.of t).length ≤ (H.of s.before).length →
      s ∈ w.sealsOf (.write payload out random))
    {message' buffer : Bytes} {theirs : Option (Channels T)}
    (hread : (r.read message' buffer).result = .ok theirs) :
    H.of t = H.of u ∧ message' = message ∧ (r.read message' buffer).buffer = buffer ++ payload := by
  rcases write_of_ok hwrite with ⟨step, t', w', hstepw, ht', hw, heqw⟩
  rcases read_of_ok hread with ⟨stepr, u', r', opened, hstepr, hu', _, hr, hopen, heqr⟩
  have htt : t' = t := Option.some.inj (ht'.symm.trans ht)
  have huu : u' = u := Option.some.inj (hu'.symm.trans hu)
  have hss : stepr = step := Option.some.inj (hstepr.symm.trans (hstep.trans hstepw))
  subst htt huu hss
  have hfuture' : ∀ s ∈ seals, (H.of t').length ≤ (H.of s.before).length →
      s ∈ Writer.seals K w.role payload
        { transcript := t', keys := w.keys, random, message := [] } stepr.tokens := by
    intro s hs hle
    have hmem := hfuture s hs hle
    unfold sealsOf at hmem
    rw [hstepw, ht'] at hmem
    exact hmem
  have hagree := agreement_of_tokens H genuine hw hr hopen hlength hfuture'
  rcases hagree with ⟨hhistory, hopened, hbytes⟩
  rw [heqw, finishStep_buffer] at hout
  have hmessage := List.append_cancel_left hout
  refine ⟨hhistory.symm, hbytes.trans hmessage, ?_⟩
  rw [heqr, finishStep_buffer, hopened]

/-- Over a transcript that is its history, let two sides have come to the same step of a pattern, no
call of theirs having failed, and let one of them write the message of that step. If whatever is
opened was sealed by one of the two, then of any message given to the other side one of two things is
true. It is refused, and the buffer left as it was; or the two sides are in agreement, the message is
the one that was written, and it delivers the payload. -/
theorem agreed_of_read (H : History T) {sw sr : Setup} {pattern : Pattern} {rolew roler : Role}
    {w r : Handshake K T} {ew er : List Event} {callsw callsr : List Call}
    {payload out : Bytes} {random : RandomStream}
    (registeredw : sw.registry.get sw.pattern = .ok pattern)
    (registeredr : sr.registry.get sr.pattern = .ok pattern)
    (startw : sw.start rolew = .ok (w, ew)) (startr : sr.start roler = .ok (r, er))
    (succeedw : w.Succeeds callsw) (succeedr : r.Succeeds callsr)
    (same : (w.after callsw).done = (r.after callsr).done)
    (written : ((w.after callsw).write payload out random).1.result.isOk)
    (genuine : H.Genuine
      (w.sealsAlong (callsw ++ [.write payload out random]) ++ r.sealsAlong callsr)) :
    ∃ message, ((w.after callsw).write payload out random).1.buffer = out ++ message ∧
      ∀ message' buffer,
        (∃ e, ((r.after callsr).read message' buffer).result = .error e ∧
          ((r.after callsr).read message' buffer).buffer = buffer) ∨
        (Agreed H pattern sw sr rolew roler (w.after callsw) (r.after callsr) ∧
          message' = message ∧
          ((r.after callsr).read message' buffer).buffer = buffer ++ payload) := by
  rcases recorded_of_start H registeredw startw with ⟨openw, hbeginw, hlengthw, hrecw⟩
  rcases recorded_of_start H registeredr startr with ⟨openr, hbeginr, hlengthr, hrecr⟩
  have recw := hrecw.after succeedw
  have recr := hrecr.after succeedr
  rw [List.nil_append] at recw recr
  rcases exists_eq_ok_of_isOk written with ⟨channels, written⟩
  rcases write_of_ok written with ⟨step, t, w', hstep, ht, _, hwrite⟩
  have hout := congrArg Outcome.buffer hwrite
  rw [finishStep_buffer] at hout
  refine ⟨_, hout, ?_⟩
  intro message' buffer
  have hsteps : (r.after callsr).step? = (w.after callsw).step? := by
    unfold step?
    rw [recw.pattern_eq, recr.pattern_eq, same]
  cases hread : ((r.after callsr).read message' buffer).result with
  | error e =>
    left
    have hattempt := (r.after callsr).attempt_read message' buffer
    exact ⟨e, rfl, hattempt.buffer_of_error hread⟩
  | ok theirs =>
    right
    rcases read_of_ok hread with ⟨_, u, _, _, _, hu, _⟩
    have hlength : (H.of u).length = (H.of t).length := by
      rw [recw.length t ht, recr.length u hu, same]
    -- What is sealed at this history or a longer one is sealed by this write.
    have hfuture : ∀ s ∈ w.sealsAlong (callsw ++ [.write payload out random]) ++ r.sealsAlong callsr,
        (H.of t).length ≤ (H.of s.before).length →
          s ∈ (w.after callsw).sealsOf (.write payload out random) := by
      intro s hs hle
      rw [sealsAlong_append] at hs
      rw [recw.length t ht] at hle
      rcases List.mem_append.1 hs with hwriter | hreader
      · rcases List.mem_append.1 hwriter with hearlier | hnow
        · have hbound := recw.seals s hearlier
          omega
        · exact hnow
      · have hbound := recr.seals s hreader
        rw [← same] at hbound
        omega
    have hresult := read_of_genuine genuine hsteps ht hu hlength written hout hfuture hread
    rcases hresult with ⟨hhistory, hmessage, hbuffer⟩
    have hagreed := agreed_of_history hbeginw hbeginr (hlengthw.trans hlengthr.symm) recw recr ht hu
      hhistory
    exact ⟨hagreed, hmessage, hbuffer⟩

/-! ## A question and its answer -/

namespace Answer

def question : KeyPair :=
  x25519.keyPair (RandomStream.cyclic [1]).nextKey

def answer : KeyPair :=
  x25519.keyPair (RandomStream.cyclic [2]).nextKey

def lasting : KeyPair :=
  x25519.keyPair ⟨Vector.replicate keyLength 3⟩

/-- What both sides have taken in before the payload of the question, the static key of the answer,
and the payload of the answer. -/
def histories : List Absorbed × List Absorbed × List Absorbed :=
  let first : List Absorbed :=
    [.label (Bytes.ofText "DISCOv0.1.0_XX"), .data [5], .clear question.publicKey.toBytes]
  let second := first ++
    [.sealed [6] [], .clear answer.publicKey.toBytes,
      .key (x25519.combine answer.secret question.publicKey).toList]
  let third := second ++
    [.sealed lasting.publicKey.toBytes [],
      .key (x25519.combine lasting.secret question.publicKey).toList]
  (first, second, third)

def book : List (Sealing (List Absorbed)) :=
  [⟨histories.1, [6], []⟩, ⟨histories.2.1, lasting.publicKey.toBytes, []⟩, ⟨histories.2.2, [7], []⟩]

def message : Bytes :=
  answer.publicKey.toBytes ++ IdealTranscript.segment lasting.publicKey.toBytes ++
    IdealTranscript.segment [7]

def setup (keys : Keyring) : Setup :=
  { registry := .standard, pattern := "XX", prologue := [5], keys }

def started (role : Role) (keys : Keyring) : Handshake x25519 (IdealTranscript book) where
  transcript := some ⟨[.label (Bytes.ofText "DISCOv0.1.0_XX"), .data [5]]⟩
  pattern := .xx
  done := 0
  role := role
  keys := keys

end Answer

open Answer in
/-- The answer to the first message of mutual authentication is read, and nothing else is. -/
theorem agreed_of_read_answer :
    let w := started .responder { ownStatic := some lasting }
    let r := (started .initiator {}).after [.write [6] [] (.cyclic [1])]
    (setup { ownStatic := some lasting }).start .responder =
        .ok (w, [.started "XX" .responder]) ∧
      (r.read message []).result.isOk ∧
      ∀ message' buffer, message' ≠ message →
        ∃ e, (r.read message' buffer).result = .error e := by
  intro w r
  refine ⟨rfl, by decide +kernel, ?_⟩
  intro message' buffer hne
  let question := question.publicKey.toBytes ++ IdealTranscript.segment [6]
  have startw : (setup { ownStatic := some lasting }).start .responder =
      .ok (w, [.started "XX" .responder]) := rfl
  have startr : (setup {}).start .initiator =
      .ok (started .initiator {}, [.started "XX" .initiator]) := rfl
  have succeedw : w.Succeeds [.read question []] := ⟨by decide +kernel, trivial⟩
  have succeedr : (started .initiator {}).Succeeds [.write [6] [] (.cyclic [1])] :=
    ⟨by decide +kernel, trivial⟩
  have same : (w.after [.read question []]).done = r.done := by decide +kernel
  have written : ((w.after [.read question []]).write [7] [] (.cyclic [2])).1.result.isOk := by
    decide +kernel
  have hmessage : ((w.after [.read question []]).write [7] [] (.cyclic [2])).1.buffer = message := by
    decide +kernel
  have genuine : IdealTranscript.history.Genuine
      (w.sealsAlong [.read question [], .write [7] [] (.cyclic [2])] ++
        (started .initiator {}).sealsAlong [.write [6] [] (.cyclic [1])]) :=
    IdealTranscript.genuine_of_book (by decide +kernel)
  rcases agreed_of_read IdealTranscript.history rfl rfl startw startr succeedw succeedr same
    written genuine with ⟨found, hfound, hread⟩
  have hsame : found = message := hfound.symm.trans hmessage
  rcases hread message' buffer with ⟨e, herror, _⟩ | ⟨_, hequal, _⟩
  · exact ⟨e, herror⟩
  · exact absurd (hequal.trans hsame) hne

end Handshake

end DuplexHandshake
