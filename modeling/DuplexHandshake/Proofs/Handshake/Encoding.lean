import DuplexHandshake.Proofs.Handshake.Lengths

/-!
# The one form of a message

What a reader accepts is what a peer would have written. From the keys that a message delivers and from
its payload follows every byte of it: an ephemeral key as it stands, a static key and the payload as a
peer would seal them who has taken in the same before. So no two messages deliver the same, and no byte
of a message is passed over or used twice.
-/

namespace DuplexHandshake

variable {K : KeyAgreement} {T : Type} [Transcript T] {role : Role} {tagLength : Nat}

/-! ## Writing what a reader would find -/

/-- The segments of a message that delivers these keys and this payload to a reader who knows some keys
already, one for each token and one for the payload. The transcript is that of the reader's peer. -/
def segments (K : KeyAgreement) (role : Role) (payload : Bytes) :
    T → Keyring → List Token → List PublicKey → Option (List Bytes)
  | u, _, [], [] => some [(Transcript.encrypt u payload []).1]
  | u, known, .send .ephemeral :: ts, key :: keys =>
    (segments K role payload (Transcript.sendClear u key.toBytes)
      { known with peerEphemeral := some key } ts keys).map (key.toBytes :: ·)
  | u, known, .send .static :: ts, key :: keys =>
    (segments K role payload (Transcript.encrypt u key.toBytes []).2
      { known with peerStatic := some key } ts keys).map
        ((Transcript.encrypt u key.toBytes []).1 :: ·)
  | u, known, .mix initiator responder :: ts, keys =>
    -- A secret is not sent; both sides find it by themselves.
    match known.sharedSecret K role initiator responder with
    | .error _ => none
    | .ok secret =>
      (segments K role payload (Transcript.mixKey u secret.bytes.toList) known ts keys).map ([] :: ·)
  | _, _, _, _ => none

/-- There is a segment for each token, be it empty, and one for the payload. -/
theorem length_of_segments {u : T} {known : Keyring} {ts : List Token} {keys : List PublicKey}
    {payload : Bytes} {parts : List Bytes}
    (h : segments K role payload u known ts keys = some parts) : parts.length = ts.length + 1 := by
  fun_induction segments K role payload u known ts keys generalizing parts with
  | case1 u known =>
    cases h
    rfl
  | case2 u known ts key keys ih =>
    obtain ⟨later, hlater, rfl⟩ := Option.map_eq_some_iff.1 h
    rw [List.length_cons, ih hlater, List.length_cons]
  | case3 u known ts key keys ih =>
    obtain ⟨later, hlater, rfl⟩ := Option.map_eq_some_iff.1 h
    rw [List.length_cons, ih hlater, List.length_cons]
  | case4 => cases h
  | case5 u known initiator responder ts keys secret hsecret ih =>
    obtain ⟨later, hlater, rfl⟩ := Option.map_eq_some_iff.1 h
    rw [List.length_cons, ih hlater, List.length_cons]
  | case6 => cases h

/-- A key in the clear, and the payload sealed after it. -/
example (u : T) (key : PublicKey) (payload : Bytes) :
    segments K role payload u {} [.send .ephemeral] [key] =
      some [key.toBytes, (Transcript.encrypt (Transcript.sendClear u key.toBytes) payload []).1] :=
  rfl

namespace Reader

/-- The key that a token has brought, as it stands in the keyring afterwards. -/
def brought (next : Reader T) : Token → List PublicKey
  | .send kind => (next.keys.peer kind).toList
  | .mix .. => []

/-- The keys that a reader finds at these tokens, in order. -/
def found (K : KeyAgreement) (role : Role) (tagLength : Nat) : Reader T → List Token → List PublicKey
  | _, [] => []
  | r, t :: ts =>
    match r.token K role tagLength t with
    | .error _ => []
    | .ok next => next.brought t ++ next.found K role tagLength ts

theorem found_cons {r next : Reader T} {t : Token} (h : r.token K role tagLength t = .ok next)
    (ts : List Token) :
    r.found K role tagLength (t :: ts) = next.brought t ++ next.found K role tagLength ts := by
  rw [found, h]

/-- The parts of a message as a reader meets them: before every token, and before the payload, the
parts that are left are all that is left of the message. -/
def Meets (K : KeyAgreement) (role : Role) (tagLength : Nat) (r : Reader T) (ts : List Token)
    (parts : List Bytes) : Prop :=
  ∀ before after there, ts = before ++ after → r.tokens K role tagLength before = .ok there →
    there.rest = (parts.drop before.length).flatten

theorem Meets.rest_eq {r : Reader T} {ts : List Token} {parts : List Bytes}
    (h : r.Meets K role tagLength ts parts) : r.rest = parts.flatten :=
  h [] ts r rfl rfl

theorem meets_nil {r : Reader T} {segment : Bytes} (h : r.rest = segment) :
    r.Meets K role tagLength [] [segment] := by
  intro before after there hsplit hthere
  obtain ⟨rfl, rfl⟩ := List.append_eq_nil_iff.1 hsplit.symm
  cases hthere
  simpa using h

theorem Takes.meets {r next : Reader T} {t : Token} {segment : Bytes} {ts : List Token}
    {parts : List Bytes} (h : r.Takes K role tagLength t segment next)
    (hnext : next.Meets K role tagLength ts parts) :
    r.Meets K role tagLength (t :: ts) (segment :: parts) := by
  intro before after there hsplit hthere
  cases before with
  | nil =>
    cases hthere
    rw [h.rest_eq, hnext.rest_eq]
    rfl
  | cons first before =>
    obtain ⟨rfl, hrest⟩ := List.cons.inj hsplit
    obtain ⟨next', hfirst, hlater⟩ := tokens_cons_eq_ok.1 hthere
    -- There is but one way to read a token.
    have hsame := hfirst.symm.trans (token_eq_ok_iff.2 ⟨segment, h⟩)
    cases hsame
    exact hnext before after there hrest hlater

end Reader

/-! ## From what is read to what is written, and back -/

open DuplexTranscript (InSync)

variable {permute : Block → Block}

theorem DuplexTranscript.exists_inSync (t : DuplexTranscript permute) : ∃ u, InSync u t := by
  refine ⟨{ t with duplex := { t.duplex with receiver := t.duplex.receiver.map not } }, ?_, rfl⟩
  refine ⟨rfl, rfl, rfl, ?_⟩
  cases t.duplex.receiver with
  | none => exact .unset
  | some received => exact Strobe.Facing.symm (.opposite received)

namespace Reader

variable {r last : Reader (DuplexTranscript permute)} {u : DuplexTranscript permute}
  {ts : List Token} {payload : Bytes}

/-- What a reader takes off the message for a token is what a peer in step with it makes of the key
that the token brings, and the two stay in step. -/
theorem Takes.segments_cons {next : Reader (DuplexTranscript permute)} {t : Token} {segment : Bytes}
    (h : r.Takes K role tagLength t segment next) (hsync : InSync u r.transcript) :
    ∃ u', InSync u' next.transcript ∧ ∀ payload ts keys,
      segments K role payload u r.keys (t :: ts) (next.brought t ++ keys) =
        (segments K role payload u' next.keys ts keys).map (segment :: ·) := by
  cases h with
  | ephemeral key rest hrest =>
    exact ⟨_, hsync.clear key.toBytes, fun payload ts keys => rfl⟩
  | static key _ rest hrest hlength hopen =>
    -- The segment opens to the key, so it is what the peer makes of the key.
    have hsegment : (Transcript.encrypt u key.toBytes []).1 = segment :=
      hsync.encrypt_of_decrypt hopen
    have hsync' := (hsync.decrypt_encrypt key.toBytes []).2
    rw [hsegment] at hsync'
    refine ⟨_, hsync', ?_⟩
    intro payload ts keys
    simp only [brought, Keyring.peer, Option.toList_some, List.singleton_append, segments, hsegment]
  | mix initiator responder secret hsecret =>
    refine ⟨_, hsync.mixKey secret.bytes.toList, ?_⟩
    intro payload ts keys
    simp only [brought, List.nil_append, segments, hsecret]

/-- Tokens and payload that are read are those of the one message that delivers what was found. -/
theorem segments_of_tokens (hsync : InSync u r.transcript)
    (hr : r.tokens K role tagLength ts = .ok last)
    (hopen : (Transcript.decrypt last.transcript last.rest []).1 = .ok payload) :
    ∃ parts, segments K role payload u r.keys ts (r.found K role tagLength ts) = some parts ∧
      r.Meets K role tagLength ts parts := by
  induction ts generalizing r u with
  | nil =>
    cases hr
    exact ⟨[_], rfl, meets_nil (hsync.encrypt_of_decrypt hopen).symm⟩
  | cons t ts ih =>
    obtain ⟨next, hnext, hlast⟩ := tokens_cons_eq_ok.1 hr
    obtain ⟨segment, htakes⟩ := token_eq_ok_iff.1 hnext
    obtain ⟨u', hsync', hsegments⟩ := htakes.segments_cons hsync
    obtain ⟨parts, hparts, hmeets⟩ := ih hsync' hlast
    refine ⟨segment :: parts, ?_, htakes.meets hmeets⟩
    rw [found_cons hnext, hsegments, hparts, Option.map_some]

/-- A peer's segment for a token is one that a reader in step with the peer takes, and the rest of the
peer's message is what is left. -/
theorem takes_of_segments {t : Token} {keys : List PublicKey} {parts : List Bytes}
    (hsync : InSync u r.transcript) (htag : Transcript.tagLength r.transcript = tagLength)
    (hparts : segments K role payload u r.keys (t :: ts) keys = some parts)
    (hrest : r.rest = parts.flatten) :
    ∃ segment next u' later parts', r.Takes K role tagLength t segment next ∧
      InSync u' next.transcript ∧ keys = next.brought t ++ later ∧
      segments K role payload u' next.keys ts later = some parts' ∧ next.rest = parts'.flatten := by
  cases t with
  | send kind =>
    cases keys with
    | nil => cases kind <;> cases hparts
    | cons key keys =>
      cases kind with
      | ephemeral =>
        obtain ⟨parts', hparts', rfl⟩ := Option.map_eq_some_iff.1 hparts
        rw [List.flatten_cons] at hrest
        exact ⟨_, _, _, keys, parts', .ephemeral key _ hrest, hsync.clear key.toBytes, rfl,
          hparts', rfl⟩
      | static =>
        obtain ⟨parts', hparts', rfl⟩ := Option.map_eq_some_iff.1 hparts
        rw [List.flatten_cons] at hrest
        have hopen := hsync.decrypt_encrypt key.toBytes []
        have hlength : (Transcript.encrypt u key.toBytes []).1.length = keyLength + tagLength := by
          rw [DuplexTranscript.length_encrypt, PublicKey.length_toBytes, hsync.tagLength, htag]
        exact ⟨_, _, _, keys, parts', .static key _ _ hrest hlength hopen.1, hopen.2, rfl,
          hparts', rfl⟩
  | mix initiator responder =>
    unfold segments at hparts
    split at hparts
    · cases hparts
    · next secret hsecret =>
      obtain ⟨parts', hparts', rfl⟩ := Option.map_eq_some_iff.1 hparts
      exact ⟨_, _, _, keys, parts', .mix initiator responder secret hsecret,
        hsync.mixKey secret.bytes.toList, rfl, hparts', hrest⟩

/-- The message that a peer makes of some keys and a payload is read, and delivers them. -/
theorem tokens_of_segments {keys : List PublicKey} {parts : List Bytes}
    (hsync : InSync u r.transcript) (htag : Transcript.tagLength r.transcript = tagLength)
    (hparts : segments K role payload u r.keys ts keys = some parts)
    (hrest : r.rest = parts.flatten) :
    ∃ last, r.tokens K role tagLength ts = .ok last ∧
      (Transcript.decrypt last.transcript last.rest []).1 = .ok payload ∧
      r.found K role tagLength ts = keys := by
  induction ts generalizing r u keys parts with
  | nil =>
    cases keys with
    | nil =>
      cases hparts
      refine ⟨r, rfl, ?_, rfl⟩
      rw [hrest, List.flatten_singleton]
      exact (hsync.decrypt_encrypt payload []).1
    | cons key keys => cases hparts
  | cons t ts ih =>
    obtain ⟨segment, next, u', later, parts', htakes, hsync', rfl, hparts', hrest'⟩ :=
      takes_of_segments hsync htag hparts hrest
    have hnext : r.token K role tagLength t = .ok next := token_eq_ok_iff.2 ⟨segment, htakes⟩
    have hone : r.tokens K role tagLength [t] = .ok next := by
      rw [tokens_singleton, hnext]
    have htag' := (tagLength_of_tokens DuplexTranscript.sized.toSteady hone).trans htag
    obtain ⟨last, hlast, hopen, hfound⟩ := ih hsync' htag' hparts' hrest'
    refine ⟨last, tokens_cons_eq_ok.2 ⟨next, hnext, hlast⟩, hopen, ?_⟩
    rw [found_cons hnext, hfound]

end Reader

/-! ## Messages -/

namespace Handshake

/-- The keys that a handshake finds in a message. -/
def found {T : Type} [Transcript T] (h : Handshake K T) (message : Bytes) : List PublicKey :=
  match h.step?, h.transcript with
  | some step, some t =>
    Reader.found K h.role h.tagLength { transcript := t, keys := h.keys, rest := message } step.tokens
  | _, _ => []

/-- The segments of a message for the handshake, written with the transcript of its peer. -/
def segments? {T : Type} [Transcript T] (h : Handshake K T) (peer : T) (keys : List PublicKey)
    (payload : Bytes) : Option (List Bytes) :=
  h.step?.bind fun step => segments K h.role payload peer h.keys step.tokens keys

/-- What is read off the parts of a message, one part for each token and one for the payload: every
byte of the message is part of just one of them, and is taken off with it. -/
structure Consumed (h : Handshake K (DuplexTranscript permute)) (message : Bytes)
    (parts : List Bytes) : Prop where
  whole : message = parts.flatten
  count : ∀ step, h.step? = some step → parts.length = step.tokens.length + 1
  meets : ∀ step t, h.step? = some step → h.transcript = some t →
    Reader.Meets K h.role h.tagLength { transcript := t, keys := h.keys, rest := message }
      step.tokens parts

/-- A handshake reads messages in their one form only. -/
structure Canonical (h : Handshake K (DuplexTranscript permute)) : Prop where
  /-- A message that is accepted is what any peer in step with the reader makes of the keys that were
  found and of the payload that was delivered. -/
  encoded : ∀ message buffer, (h.read message buffer).result.isOk →
    ∃ t payload, h.transcript = some t ∧ (h.read message buffer).buffer = buffer ++ payload ∧
      (∃ u, InSync u t) ∧ ∀ u, InSync u t →
        ∃ parts, h.segments? u (h.found message) payload = some parts ∧ h.Consumed message parts
  /-- And what such a peer makes of any keys and any payload is accepted and delivers them. -/
  decoded : ∀ t u keys payload parts buffer, h.transcript = some t → InSync u t →
    h.segments? u keys payload = some parts →
      (h.read parts.flatten buffer).result.isOk ∧
        (h.read parts.flatten buffer).buffer = buffer ++ payload ∧ h.found parts.flatten = keys
  injective : ∀ message other buffer buffer' payload,
    (h.read message buffer).result.isOk → (h.read other buffer').result.isOk →
      (h.read message buffer).buffer = buffer ++ payload →
      (h.read other buffer').buffer = buffer' ++ payload →
      h.found message = h.found other → message = other

theorem encoded_of_read {h : Handshake K (DuplexTranscript permute)} {message buffer : Bytes}
    (hok : (h.read message buffer).result.isOk) :
    ∃ t payload, h.transcript = some t ∧ (h.read message buffer).buffer = buffer ++ payload ∧
      (∃ u, InSync u t) ∧ ∀ u, InSync u t →
        ∃ parts, h.segments? u (h.found message) payload = some parts ∧ h.Consumed message parts := by
  obtain ⟨channels, hresult⟩ := exists_eq_ok_of_isOk hok
  obtain ⟨step, t, r, payload, hstep, ht, _, hr, hopen, hread⟩ := read_of_ok hresult
  refine ⟨t, payload, ht, ?_, t.exists_inSync, ?_⟩
  · rw [hread, finishStep_buffer]
  · intro u hsync
    obtain ⟨parts, hparts, hmeets⟩ := Reader.segments_of_tokens hsync hr hopen
    refine ⟨parts, ?_, hmeets.rest_eq, ?_, ?_⟩
    · rw [segments?, found, hstep, ht]
      exact hparts
    · intro step' hstep'
      cases hstep.symm.trans hstep'
      exact length_of_segments hparts
    · intro step' t' hstep' ht'
      cases hstep.symm.trans hstep'
      cases ht.symm.trans ht'
      exact hmeets

theorem read_of_segments {h : Handshake K (DuplexTranscript permute)}
    {t u : DuplexTranscript permute} {keys : List PublicKey} {payload : Bytes} {parts : List Bytes}
    (ht : h.transcript = some t) (hsync : InSync u t)
    (hparts : h.segments? u keys payload = some parts) (buffer : Bytes) :
    (h.read parts.flatten buffer).result.isOk ∧
      (h.read parts.flatten buffer).buffer = buffer ++ payload ∧ h.found parts.flatten = keys := by
  obtain ⟨step, hstep, hparts⟩ := Option.bind_eq_some_iff.1 hparts
  have htag : Transcript.tagLength t = h.tagLength := (tagLength_of_transcript ht).symm
  obtain ⟨last, hlast, hopen, hfound⟩ := Reader.tokens_of_segments
    (r := { transcript := t, keys := h.keys, rest := parts.flatten }) hsync htag hparts rfl
  -- What is read token by token is long enough to be read at all.
  obtain ⟨taken, hrest, hlength⟩ := Reader.rest_of_tokens hlast
  have hlong : step.tokenLength h.tagLength ≤ parts.flatten.length := by
    have hwhole : parts.flatten = taken ++ last.rest := hrest
    rw [Step.tokenLength_eq_sum, ← hlength, hwhole, List.length_append]
    omega
  rw [read_of_tokens hstep ht hlong hlast hopen buffer, found, hstep, ht]
  refine ⟨?_, finishStep_buffer _ _ _, hfound⟩
  unfold finishStep
  dsimp only
  split <;> rfl

/-- Under every pattern and at every point of it, a reader accepts only what its peer would have written
with the keys and the payload that the reader comes by. -/
theorem read_inverts_segments (h : Handshake K (DuplexTranscript permute)) : h.Canonical where
  encoded _ _ hok := encoded_of_read hok
  decoded _ _ _ _ _ buffer ht hsync hparts := read_of_segments ht hsync hparts buffer
  injective message other buffer buffer' payload hok hok' hbuffer hbuffer' hfound := by
    obtain ⟨t, delivered, ht, happended, ⟨u, hsync⟩, hencoded⟩ := encoded_of_read hok
    obtain ⟨t', delivered', ht', happended', _, hencoded'⟩ := encoded_of_read hok'
    cases ht.symm.trans ht'
    cases List.append_cancel_left (happended.symm.trans hbuffer)
    cases List.append_cancel_left (happended'.symm.trans hbuffer')
    -- One peer in step with the reader makes both messages, and of the same keys and payload.
    obtain ⟨parts, hparts, hconsumed⟩ := hencoded u hsync
    obtain ⟨parts', hparts', hconsumed'⟩ := hencoded' u hsync
    rw [hfound, hparts'] at hparts
    cases hparts
    rw [hconsumed.whole, hconsumed'.whole]

end Handshake

end DuplexHandshake
