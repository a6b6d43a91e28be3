import DuplexHandshake.Handshake.Read
import DuplexHandshake.Handshake.Write
import DuplexHandshake.Proofs.Handshake.Attempt
import DuplexHandshake.Proofs.Key.Partners
import DuplexHandshake.Proofs.Transcript.Lockstep

/-!
# Tokens on the way

A writer appends a segment to the message for every token, and a reader cuts the same segments off.
If their transcripts are in step and their keys fit, the reader keeps up with the writer, unless it
comes to a secret that it lacks a key for.
-/

namespace DuplexHandshake

/-! ## Cutting off what was written -/

namespace Reader

variable {T : Type} [Transcript T]

theorem ephemeral_append (r : Reader T) (key : PublicKey) (tail : Bytes)
    (hrest : r.rest = key.toBytes ++ tail) :
    r.ephemeral =
      .ok
        { transcript := Transcript.receiveClear r.transcript key.toBytes
          keys := { r.keys with peerEphemeral := some key }
          rest := tail } := by
  have hsplit : Bytes.split? keyLength r.rest = some (key.toBytes, tail) := by
    rw [hrest, ← key.length_toBytes]
    exact Bytes.split?_append _ _
  unfold ephemeral
  rw [hsplit]
  simp only [PublicKey.ofBytes_toBytes]

theorem static_append (r : Reader T) (key : PublicKey) (segment tail : Bytes) (tagLength : Nat)
    (hlength : segment.length = keyLength + tagLength) (hrest : r.rest = segment ++ tail)
    (hopen : (Transcript.decrypt r.transcript segment []).1 = .ok key.toBytes) :
    r.static tagLength =
      .ok
        { transcript := (Transcript.decrypt r.transcript segment []).2
          keys := { r.keys with peerStatic := some key }
          rest := tail } := by
  have hsplit : Bytes.split? (keyLength + tagLength) r.rest = some (segment, tail) := by
    rw [hrest, ← hlength]
    exact Bytes.split?_append _ _
  have hpair : Transcript.decrypt r.transcript segment [] =
      (.ok key.toBytes, (Transcript.decrypt r.transcript segment []).2) := by
    rw [← hopen]
  unfold static
  rw [hsplit]
  simp only
  rw [hpair]
  simp only [PublicKey.ofBytes_toBytes]

variable {K : KeyAgreement} {role : Role} {tagLength : Nat}

/-- What a reader does with a token that it can read: it takes the token's segment off the front of its
message, and what it finds there into its transcript and its keys. -/
inductive Takes (K : KeyAgreement) (role : Role) (tagLength : Nat) (r : Reader T) :
    Token → Bytes → Reader T → Prop where
  | ephemeral (key : PublicKey) (rest : Bytes) : r.rest = key.toBytes ++ rest →
      Takes K role tagLength r (.send .ephemeral) key.toBytes
        { transcript := Transcript.receiveClear r.transcript key.toBytes
          keys := { r.keys with peerEphemeral := some key }
          rest }
  | static (key : PublicKey) (segment rest : Bytes) : r.rest = segment ++ rest →
      segment.length = keyLength + tagLength →
      (Transcript.decrypt r.transcript segment []).1 = .ok key.toBytes →
      Takes K role tagLength r (.send .static) segment
        { transcript := (Transcript.decrypt r.transcript segment []).2
          keys := { r.keys with peerStatic := some key }
          rest }
  | mix (initiator responder : KeyKind) (secret : SharedSecret) :
      r.keys.sharedSecret K role initiator responder = .ok secret →
      Takes K role tagLength r (.mix initiator responder) []
        { r with transcript := Transcript.mixKey r.transcript secret.bytes.toList }

theorem Takes.rest_eq {r next : Reader T} {t : Token} {segment : Bytes}
    (h : r.Takes K role tagLength t segment next) : r.rest = segment ++ next.rest := by
  cases h with
  | ephemeral key rest hrest => exact hrest
  | static key _ rest hrest => exact hrest
  | mix initiator responder secret => rfl

theorem Takes.length_eq {r next : Reader T} {t : Token} {segment : Bytes}
    (h : r.Takes K role tagLength t segment next) : segment.length = t.length tagLength := by
  cases h with
  | ephemeral key rest hrest => exact key.length_toBytes
  | static key _ rest hrest hlength => exact hlength
  | mix initiator responder secret => rfl

theorem takes_of_ephemeral {r next : Reader T} (h : r.ephemeral = .ok next) :
    ∃ segment, r.Takes K role tagLength (.send .ephemeral) segment next := by
  unfold ephemeral at h
  split at h
  · cases h
  · next segment rest hsplit =>
    have hrest := (Bytes.append_eq_of_split? hsplit).1.symm
    split at h
    · cases h
    · next key hkey =>
      cases h
      cases PublicKey.toBytes_of_ofBytes hkey
      exact ⟨_, .ephemeral key rest hrest⟩

theorem takes_of_static {r next : Reader T} (h : r.static tagLength = .ok next) :
    ∃ segment, r.Takes K role tagLength (.send .static) segment next := by
  unfold static at h
  split at h
  · cases h
  · next segment rest hsplit =>
    obtain ⟨hrest, hlength⟩ := Bytes.append_eq_of_split? hsplit
    split at h
    · cases h
    · next opened transcript hopen =>
      split at h
      · cases h
      · next key hkey =>
        cases h
        cases PublicKey.toBytes_of_ofBytes hkey
        have hpair := congrArg Prod.fst hopen
        have htranscript := congrArg Prod.snd hopen
        dsimp only at hpair htranscript
        rw [← htranscript]
        exact ⟨_, .static key segment rest hrest.symm hlength hpair⟩

/-- This is all that a reader does with a token, and it does it whenever it can. -/
theorem token_eq_ok_iff {r next : Reader T} {t : Token} :
    r.token K role tagLength t = .ok next ↔ ∃ segment, r.Takes K role tagLength t segment next := by
  constructor
  · intro h
    cases t with
    | send kind =>
      cases kind with
      | ephemeral => exact takes_of_ephemeral h
      | static => exact takes_of_static h
    | mix initiator responder =>
      unfold token at h
      dsimp only at h
      split at h
      · cases h
      · next secret hsecret =>
        cases h
        exact ⟨_, .mix initiator responder secret hsecret⟩
  · rintro ⟨segment, htakes⟩
    cases htakes with
    | ephemeral key rest hrest => exact r.ephemeral_append key rest hrest
    | static key _ rest hrest hlength hopen =>
      exact r.static_append key segment rest tagLength hlength hrest hopen
    | mix initiator responder secret hsecret =>
      unfold token
      simp only [hsecret]

end Reader

/-! ## From writer to reader -/

variable {K : KeyAgreement} {permute : Block → Block} {role : Role} {tagLength : Nat}

open DuplexTranscript (InSync)

/-- How a reader fares with tokens that were written: it keeps up with the writer and leaves what
follows them, or it stops at a secret that it lacks a key for. -/
inductive Arrival (K : KeyAgreement) (role : Role) (ts : List Token)
    (w : Writer (DuplexTranscript permute)) (tail : Bytes) :
    Except (Interruption (Reader (DuplexTranscript permute))) (Reader (DuplexTranscript permute)) →
      Prop where
  | complete (r : Reader (DuplexTranscript permute)) :
      InSync w.transcript r.transcript → w.keys.Partners K r.keys → r.rest = tail →
      Arrival K role ts w tail (.ok r)
  | lacking (r : Reader (DuplexTranscript permute)) (initiator responder : KeyKind) :
      .mix initiator responder ∈ ts → r.keys.Lacks role initiator responder →
      Arrival K role ts w tail (.error { error := .missingKeyMaterial, events := [], state := r })

theorem Arrival.of_subset {ts more : List Token} {w : Writer (DuplexTranscript permute)}
    {tail : Bytes}
    {result : Except (Interruption (Reader (DuplexTranscript permute)))
      (Reader (DuplexTranscript permute))}
    (h : Arrival K role ts w tail result) (hsub : ts ⊆ more) : Arrival K role more w tail result := by
  cases h with
  | complete r hsync hkeys hrest => exact .complete r hsync hkeys hrest
  | lacking r initiator responder hmem hlacks =>
    exact .lacking r initiator responder (hsub hmem) hlacks

/-- What a writer adds to a message while it writes tokens, and what becomes of it. -/
structure Adds (K : KeyAgreement) (role : Role) (tagLength : Nat) (ts : List Token)
    (w end_ : Writer (DuplexTranscript permute)) (segment : Bytes) : Prop where
  message : end_.message = w.message ++ segment
  length : segment.length = (ts.map (Token.length tagLength)).sum
  tag : Transcript.tagLength end_.transcript = tagLength
  arrival : ∀ (r : Reader (DuplexTranscript permute)) (tail : Bytes),
    InSync w.transcript r.transcript → w.keys.Partners K r.keys → r.rest = segment ++ tail →
      Arrival K role.other ts end_ tail (r.tokens K role.other tagLength ts)

theorem Reader.tokens_singleton {T : Type} [Transcript T] (r : Reader T) (t : Token) :
    r.tokens K role tagLength [t] = r.token K role tagLength t := by
  rw [tokens_cons]
  cases r.token K role tagLength t <;> rfl

namespace Writer

variable {w end_ : Writer (DuplexTranscript permute)}

theorem adds_ephemeral (htag : Transcript.tagLength w.transcript = tagLength)
    (hw : w.token K role (.send .ephemeral) = .ok end_) :
    ∃ segment, Adds K role tagLength [.send .ephemeral] w end_ segment := by
  cases hw
  refine ⟨(K.keyPair w.random.nextKey).publicKey.toBytes, rfl, ?_, htag, ?_⟩
  · exact PublicKey.length_toBytes _
  · intro r tail hsync hkeys hrest
    rw [Reader.tokens_singleton]
    have hread := r.ephemeral_append _ tail hrest
    change Arrival K role.other _ _ tail r.ephemeral
    rw [hread]
    exact .complete _ (hsync.clear _) (hkeys.ephemeral _) rfl

theorem adds_static (htag : Transcript.tagLength w.transcript = tagLength)
    (hw : w.token K role (.send .static) = .ok end_) :
    ∃ segment, Adds K role tagLength [.send .static] w end_ segment := by
  unfold token at hw
  cases hown : w.keys.ownStatic with
  | none =>
    rw [hown] at hw
    cases hw
  | some pair =>
    rw [hown] at hw
    cases hw
    have hlength : (Transcript.encrypt w.transcript pair.publicKey.toBytes []).1.length =
        keyLength + tagLength := by
      rw [DuplexTranscript.length_encrypt, PublicKey.length_toBytes, htag]
    refine ⟨(Transcript.encrypt w.transcript pair.publicKey.toBytes []).1, rfl, hlength, htag, ?_⟩
    intro r tail hsync hkeys hrest
    have hopen := hsync.decrypt_encrypt pair.publicKey.toBytes []
    have hread := r.static_append pair.publicKey _ tail tagLength hlength hrest hopen.1
    rw [Reader.tokens_singleton]
    change Arrival K role.other _ _ tail (r.static tagLength)
    rw [hread]
    exact .complete _ hopen.2 (hkeys.static hown) rfl

theorem adds_mix (commutes : K.Commutes) {initiator responder : KeyKind}
    (htag : Transcript.tagLength w.transcript = tagLength)
    (hw : w.token K role (.mix initiator responder) = .ok end_) :
    ∃ segment, Adds K role tagLength [.mix initiator responder] w end_ segment := by
  unfold token at hw
  dsimp only at hw
  cases hshared : w.keys.sharedSecret K role initiator responder with
  | error e =>
    rw [hshared] at hw
    cases hw
  | ok secret =>
    rw [hshared] at hw
    cases hw
    refine ⟨[], (List.append_nil _).symm, rfl, htag, ?_⟩
    intro r tail hsync hkeys hrest
    rw [Reader.tokens_singleton]
    unfold Reader.token
    dsimp only
    by_cases hlacks : r.keys.Lacks role.other initiator responder
    · rw [Keyring.sharedSecret_of_lacks hlacks]
      exact .lacking r initiator responder (List.mem_singleton.2 rfl) hlacks
    · rw [hkeys.sharedSecret commutes hshared hlacks]
      exact .complete _ (hsync.mixKey _) hkeys hrest

theorem adds_token (commutes : K.Commutes) {t : Token}
    (htag : Transcript.tagLength w.transcript = tagLength)
    (hw : w.token K role t = .ok end_) : ∃ segment, Adds K role tagLength [t] w end_ segment := by
  cases t with
  | send kind =>
    cases kind with
    | ephemeral => exact adds_ephemeral htag hw
    | static => exact adds_static htag hw
  | mix initiator responder => exact adds_mix commutes htag hw

theorem adds_tokens (commutes : K.Commutes) {ts : List Token}
    (htag : Transcript.tagLength w.transcript = tagLength)
    (hw : w.tokens K role ts = .ok end_) : ∃ segment, Adds K role tagLength ts w end_ segment := by
  induction ts generalizing w with
  | nil =>
    cases hw
    refine ⟨[], (List.append_nil _).symm, rfl, htag, ?_⟩
    intro r tail hsync hkeys hrest
    exact .complete r hsync hkeys hrest
  | cons t ts ih =>
    rcases tokens_cons_eq_ok.1 hw with ⟨next, hnext, hlater⟩
    rcases adds_token commutes htag hnext with ⟨first, hfirst⟩
    rcases ih hfirst.tag hlater with ⟨second, hsecond⟩
    refine ⟨first ++ second, ?_, ?_, hsecond.tag, ?_⟩
    · rw [hsecond.message, hfirst.message, List.append_assoc]
    · rw [List.length_append, hfirst.length, hsecond.length]
      simp only [List.map_cons, List.map_nil, List.sum_cons, List.sum_nil, Nat.add_zero]
    · intro r tail hsync hkeys hrest
      have harrival := hfirst.arrival r (second ++ tail) hsync hkeys
        (by rw [hrest, List.append_assoc])
      rw [Reader.tokens_singleton] at harrival
      rw [Reader.tokens_cons]
      -- Either the reader keeps up over the first token, or this is where it stops.
      generalize r.token K role.other tagLength t = result at harrival
      cases harrival with
      | complete next hsync' hkeys' hrest' =>
        have hlast := hsecond.arrival next tail hsync' hkeys' hrest'
        exact hlast.of_subset (List.subset_cons_self t ts)
      | lacking stopped initiator responder hmem hlacks =>
        have hmem : .mix initiator responder ∈ t :: ts :=
          List.mem_cons.2 (.inl (List.mem_singleton.1 hmem))
        exact .lacking stopped initiator responder hmem hlacks

end Writer

end DuplexHandshake
