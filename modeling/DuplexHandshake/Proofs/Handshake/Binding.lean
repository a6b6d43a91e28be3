import DuplexHandshake.Proofs.Handshake.Exchange
import DuplexHandshake.Proofs.Transcript.History

/-!
# What binds a message

Every token leaves one entry in the histories of both sides. A seal is made at a history that no
other seal is made at, so that a reader who opens the last segment of a message has the writer's
history, and with it every segment before.
-/

namespace DuplexHandshake

variable {K : KeyAgreement} {T : Type} [Transcript T] {role : Role}

/-! ## What a token takes in -/

/-- The entry that a token leaves on the writer's side, and the segment that it writes. -/
inductive SegmentWritten (before : T) : Absorbed → Bytes → Prop where
  | clear (data : Bytes) : SegmentWritten before (.clear data) data
  | sealed (text : Bytes) : SegmentWritten before (.sealed text []) (Transcript.encrypt before text []).1
  | key (secret : Bytes) : SegmentWritten before (.key secret) []

/-- The entry that a token leaves on the reader's side, and the segment that it reads. -/
inductive SegmentRead (before : T) : Absorbed → Bytes → Prop where
  | clear (data : Bytes) : SegmentRead before (.clear data) data
  | opened (text segment : Bytes) : (Transcript.decrypt before segment []).1 = .ok text →
      SegmentRead before (.sealed text []) segment
  | key (secret : Bytes) : SegmentRead before (.key secret) []

namespace Writer

/-- The seal that a token asks of a writer, if it asks for one. -/
def tokenSeal (w : Writer T) : Token → List (Sealing T)
  | .send .static =>
    match w.keys.ownStatic with
    | some pair => [{ before := w.transcript, text := pair.publicKey.toBytes, associated := [] }]
    | none => []
  | _ => []

/-- The seals that a writer makes for tokens and, if it gets there, for the payload. -/
def seals (K : KeyAgreement) (role : Role) (payload : Bytes) :
    Writer T → List Token → List (Sealing T)
  | w, [] => [{ before := w.transcript, text := payload, associated := [] }]
  | w, t :: ts =>
    w.tokenSeal t ++
      match w.token K role t with
      | .ok next => next.seals K role payload ts
      | .error _ => []

variable (H : History T)

theorem wrote_of_token {w next : Writer T} {t : Token} (h : w.token K role t = .ok next) :
    ∃ entry segment, SegmentWritten w.transcript entry segment ∧
      H.of next.transcript = H.of w.transcript ++ [entry] ∧
      next.message = w.message ++ segment ∧
      ∀ s ∈ w.tokenSeal t, s.before = w.transcript ∧ entry = .sealed s.text s.associated := by
  unfold token at h
  split at h
  · cases h
    exact ⟨_, _, .clear _, H.sendClear _ _, rfl, fun s hs => nomatch hs⟩
  · cases hown : w.keys.ownStatic with
    | none =>
      rw [hown] at h
      cases h
    | some pair =>
      rw [hown] at h
      cases h
      refine ⟨_, _, .sealed pair.publicKey.toBytes, H.encrypt _ _ _, rfl, ?_⟩
      intro s hs
      unfold tokenSeal at hs
      rw [hown] at hs
      cases List.mem_singleton.1 hs
      exact ⟨rfl, rfl⟩
  · split at h
    · cases h
    · cases h
      exact ⟨_, _, .key _, H.mixKey _ _, (List.append_nil _).symm, fun s hs => nomatch hs⟩

theorem length_of_token {w next : Writer T} {t : Token} (h : w.token K role t = .ok next) :
    (H.of next.transcript).length = (H.of w.transcript).length + 1 := by
  rcases wrote_of_token H h with ⟨entry, segment, _, hhistory, _⟩
  rw [hhistory, List.length_append, List.length_singleton]

theorem entries_of_tokens {w last : Writer T} {ts : List Token}
    (h : w.tokens K role ts = .ok last) :
    ∃ entries, H.of last.transcript = H.of w.transcript ++ entries ∧
      entries.length = ts.length := by
  induction ts generalizing w with
  | nil =>
    cases h
    exact ⟨[], (List.append_nil _).symm, rfl⟩
  | cons t ts ih =>
    rcases tokens_cons_eq_ok.1 h with ⟨next, hnext, hlast⟩
    rcases wrote_of_token H hnext with ⟨entry, _, _, hone, _⟩
    rcases ih hlast with ⟨entries, hrest, hlength⟩
    refine ⟨entry :: entries, ?_, congrArg (· + 1) hlength⟩
    rw [hrest, hone, List.append_assoc, List.singleton_append]

/-- The seals of a message are made one after another, none of them before its tokens. -/
theorem length_of_mem_seals {w : Writer T} {payload : Bytes} {ts : List Token} {s : Sealing T}
    (h : s ∈ w.seals K role payload ts) :
    (H.of w.transcript).length ≤ (H.of s.before).length ∧
      (H.of s.before).length ≤ (H.of w.transcript).length + ts.length := by
  induction ts generalizing w with
  | nil =>
    cases List.mem_singleton.1 h
    exact ⟨Nat.le_refl _, Nat.le_refl _⟩
  | cons t ts ih =>
    rw [seals] at h
    rw [List.length_cons]
    rcases List.mem_append.1 h with hnow | hlater
    · have hbefore : s.before = w.transcript := by
        unfold tokenSeal at hnow
        split at hnow
        · split at hnow
          · cases List.mem_singleton.1 hnow
            rfl
          · cases hnow
        · cases hnow
      rw [hbefore]
      omega
    · split at hlater
      · next next hnext =>
        have hone := length_of_token H hnext
        have hbounds := ih hlater
        omega
      · cases hlater

end Writer

namespace Reader

variable (H : History T)

theorem read_of_token {r next : Reader T} {t : Token} {tagLength : Nat}
    (h : r.token K role tagLength t = .ok next) :
    ∃ entry segment, SegmentRead r.transcript entry segment ∧
      H.of next.transcript = H.of r.transcript ++ [entry] ∧ r.rest = segment ++ next.rest := by
  obtain ⟨segment, htakes⟩ := token_eq_ok_iff.1 h
  have hrest := htakes.rest_eq
  cases htakes with
  | ephemeral key rest => exact ⟨_, _, .clear key.toBytes, H.receiveClear _ _, hrest⟩
  | static key _ rest _ _ hopen =>
    exact ⟨_, _, .opened key.toBytes segment hopen, H.decrypt _ _ _ _ hopen, hrest⟩
  | mix initiator responder secret => exact ⟨_, _, .key _, H.mixKey _ _, hrest⟩

theorem length_of_token {r next : Reader T} {t : Token} {tagLength : Nat}
    (h : r.token K role tagLength t = .ok next) :
    (H.of next.transcript).length = (H.of r.transcript).length + 1 := by
  rcases read_of_token H h with ⟨entry, segment, _, hhistory, _⟩
  rw [hhistory, List.length_append, List.length_singleton]

theorem entries_of_tokens {r last : Reader T} {ts : List Token} {tagLength : Nat}
    (h : r.tokens K role tagLength ts = .ok last) :
    ∃ entries, H.of last.transcript = H.of r.transcript ++ entries ∧
      entries.length = ts.length := by
  induction ts generalizing r with
  | nil =>
    cases h
    exact ⟨[], (List.append_nil _).symm, rfl⟩
  | cons t ts ih =>
    rcases tokens_cons_eq_ok.1 h with ⟨next, hnext, hlast⟩
    rcases read_of_token H hnext with ⟨entry, _, _, hone, _⟩
    rcases ih hlast with ⟨entries, hrest, hlength⟩
    refine ⟨entry :: entries, ?_, congrArg (· + 1) hlength⟩
    rw [hrest, hone, List.append_assoc, List.singleton_append]

end Reader

/-! ## From the last opening to the first byte -/

/-- A segment is read as it was written if it was read as the same, and a seal as itself. -/
theorem segment_eq {before before' : T} {entry : Absorbed} {segment segment' : Bytes}
    (hwritten : SegmentWritten before entry segment) (hread : SegmentRead before' entry segment')
    (hseal : ∀ text, (Transcript.decrypt before' segment' []).1 = .ok text →
      (Transcript.encrypt before text []).1 = segment') : segment' = segment := by
  cases hread with
  | clear data =>
    cases hwritten
    rfl
  | key secret =>
    cases hwritten
    rfl
  | opened text _ hopen =>
    cases hwritten
    exact (hseal text hopen).symm

/-- A writer and a reader that have taken in as much as each other, while all seals that are not
shorter than that are still to come. If the reader gets to open a payload, it has had the writer's
history from the start, has read what was written, and finds the payload. -/
theorem agreement_of_tokens (H : History T) {seals : List (Sealing T)} (genuine : H.Genuine seals)
    {writing reading : Role} {tagLength : Nat} {payload opened : Bytes} {ts : List Token}
    {w wlast : Writer T} {r rlast : Reader T} (hw : w.tokens K writing ts = .ok wlast)
    (hr : r.tokens K reading tagLength ts = .ok rlast)
    (hopen : (Transcript.decrypt rlast.transcript rlast.rest []).1 = .ok opened)
    (hlength : (H.of r.transcript).length = (H.of w.transcript).length)
    (hfuture : ∀ s ∈ seals, (H.of w.transcript).length ≤ (H.of s.before).length →
      s ∈ w.seals K writing payload ts) :
    H.of r.transcript = H.of w.transcript ∧ opened = payload ∧
      w.message ++ r.rest = wlast.message ++ (Transcript.encrypt wlast.transcript payload []).1 := by
  induction ts generalizing w r with
  | nil =>
    cases hw
    cases hr
    rcases genuine _ _ _ _ hopen with ⟨s, hs, hhistory, _, houtput, htext⟩
    have hmem := hfuture s hs (Nat.le_of_eq (by rw [hhistory, hlength]))
    cases List.mem_singleton.1 hmem
    exact ⟨hhistory.symm, htext.symm, congrArg (wlast.message ++ ·) houtput.symm⟩
  | cons t ts ih =>
    rcases Writer.tokens_cons_eq_ok.1 hw with ⟨wnext, hwnext, hwlast⟩
    rcases Reader.tokens_cons_eq_ok.1 hr with ⟨rnext, hrnext, hrlast⟩
    have hwlength := Writer.length_of_token H hwnext
    have hrlength := Reader.length_of_token H hrnext
    have hseals : w.seals K writing payload (t :: ts) =
        w.tokenSeal t ++ wnext.seals K writing payload ts := by
      rw [Writer.seals, hwnext]
    rcases Writer.wrote_of_token H hwnext with
      ⟨entry, segment, hwritten, hwhistory, hmessage, htokenSeal⟩
    rcases Reader.read_of_token H hrnext with ⟨entry', segment', hread, hrhistory, hrest⟩
    have hnext := ih hwlast hrlast (by omega) (by
      intro s hs hle
      have hmem := hfuture s hs (by omega)
      rw [hseals] at hmem
      rcases List.mem_append.1 hmem with hnow | hlater
      · have hbefore := (htokenSeal s hnow).1
        rw [hbefore] at hle
        omega
      · exact hlater)
    rcases hnext with ⟨hhistory, hopened, hbytes⟩
    rw [hwhistory, hrhistory] at hhistory
    rcases List.append_inj' hhistory rfl with ⟨hbefore, hentry⟩
    cases hentry
    have hsegment : segment' = segment := by
      apply segment_eq hwritten hread
      intro text hopens
      rcases genuine _ _ _ _ hopens with ⟨s, hs, hsbefore, hassociated, houtput, htext⟩
      have hmem := hfuture s hs (Nat.le_of_eq (by rw [hsbefore, hlength]))
      rw [hseals] at hmem
      -- Of the seals that are to come, only this token's is made at so short a history.
      have hnow : s ∈ w.tokenSeal t := by
        rcases List.mem_append.1 hmem with hnow | hlater
        · exact hnow
        · have hbounds := (Writer.length_of_mem_seals H hlater).1
          rw [hsbefore] at hbounds
          omega
      have hstate := (htokenSeal s hnow).1
      rw [← houtput, Sealing.output, hstate, hassociated, htext]
    refine ⟨hbefore, hopened, ?_⟩
    rw [← hbytes, hrest, hmessage, hsegment, List.append_assoc]


end DuplexHandshake
