import DuplexHandshake.Curve25519.X25519
import DuplexHandshake.Proofs.Handshake.Events

/-!
# The log of a session

In a session patterns are registered, handshakes are started, and calls are made on them, in any
order and with any outcome. The log of a session is what all of this reports. It can be written by
someone who sees no key, no text and no randomness, but only what was asked for, how long it was and
how it ended.
-/

namespace DuplexHandshake

/-! ## Sessions -/

/-- Something that is asked for in a session. Registries and handshakes go by their numbers. -/
inductive Request where
  | register (registry : Nat) (pattern : Pattern)
  | start (registry : Nat) (name : String) (role : Role) (prologue : Bytes) (keys : Keyring)
  | call (handshake : Nat) (call : Call)

def Request.isCallOn (number : Nat) : Request → Bool
  | .call handshake _ => handshake = number
  | _ => false

/-- Registries, and the handshakes that were started, the oldest first. -/
structure Session (K : KeyAgreement) (T : Type) where
  registries : List Registry
  handshakes : List (Handshake K T)

namespace Session

variable {K : KeyAgreement} {T : Type}

/-- A session before any handshake. -/
def fresh (registries : List Registry) : Session K T where
  registries := registries
  handshakes := []

/-- The steps that the handshake with this number has done; none if there is no such handshake. -/
def done (s : Session K T) (number : Nat) : Nat :=
  match s.handshakes[number]? with
  | some h => h.done
  | none => 0

variable [Transcript T]

/-- What a request reports, and the session after it. A request for what is not there is void. -/
def perform (s : Session K T) : Request → List Event × Session K T
  | .register registry pattern =>
    match s.registries[registry]? with
    | none => ([], s)
    | some r =>
      match r.insert pattern with
      | .error _ => ([], s)
      | .ok (r, events) => (events, { s with registries := s.registries.set registry r })
  | .start registry name role prologue keys =>
    match s.registries[registry]? with
    | none => ([], s)
    | some r =>
      match Handshake.start r name role prologue keys with
      | .error _ => ([], s)
      | .ok (h, events) => (events, { s with handshakes := s.handshakes ++ [h] })
  | .call handshake call =>
    match s.handshakes[handshake]? with
    | none => ([], s)
    | some h =>
      let outcome := h.perform call
      (outcome.events, { s with handshakes := s.handshakes.set handshake outcome.state })

def after (s : Session K T) (requests : List Request) : Session K T :=
  requests.foldl (fun s request => (s.perform request).2) s

/-- The reports of those requests that satisfy a condition, one after another. -/
def log (s : Session K T) (counts : Request → Bool) : List Request → List (List Event)
  | [] => []
  | request :: rest =>
    let (events, next) := s.perform request
    if counts request then events :: next.log counts rest else next.log counts rest

/-- The length of the message that a request appends to its caller's buffer, if it appends one. -/
def appended (s : Session K T) : Request → List Nat
  | .call handshake (.write payload buffer random) =>
    match s.handshakes[handshake]? with
    | none => []
    | some h =>
      let outcome := (h.write payload buffer random).1
      match outcome.result with
      | .error _ => []
      | .ok _ => [outcome.buffer.length - buffer.length]
  | _ => []

/-- The lengths of the messages that are written, one after another. -/
def written (s : Session K T) : List Request → List Nat
  | [] => []
  | request :: rest => s.appended request ++ (s.perform request).2.written rest

end Session

/-! ## What can be seen of a session -/

/-- What can be seen of a request from outside: the pattern, the role, how it ended, and of a call
what can be seen of the call. -/
inductive Sight where
  | nothing
  | register (pattern : Pattern) (verdict : Except HandshakeError Unit)
  | start (pattern : Except HandshakeError Pattern) (role : Role)
      (verdict : Except HandshakeError Unit)
  | call (handshake : Nat) (glimpse : Glimpse)

namespace Sight

/-- What a request has to report that is seen like this, and the standings after it. -/
def tell (standings : List Standing) : Sight → List Event × List Standing
  | .nothing => ([], standings)
  | .register pattern (.ok _) => ([.registered pattern.name], standings)
  | .register _ (.error _) => ([], standings)
  | .start (.ok pattern) role (.ok _) =>
    ([.started pattern.name role], standings ++ [⟨pattern, role, 0⟩])
  | .start _ _ _ => ([], standings)
  | .call handshake glimpse =>
    match standings[handshake]? with
    | none => ([], standings)
    | some s => ((s.tell glimpse).1, standings.set handshake (s.tell glimpse).2)

/-- The log that follows from what was seen. -/
def tellAll (standings : List Standing) : List Sight → List (List Event)
  | [] => []
  | sight :: rest => (sight.tell standings).1 :: tellAll (sight.tell standings).2 rest

/-- What stands in the log of a request that is seen like this. Registrations and starts are logged at debug
level if they succeed. -/
def lines (standings : List Standing) : Sight → List Event.Line
  | .register _ (.ok _) => [⟨.debug, "registered handshake pattern"⟩]
  | .start (.ok _) _ (.ok _) => [⟨.debug, "handshake initialized"⟩]
  | .call handshake glimpse =>
    match standings[handshake]? with
    | none => []
    | some s => s.lines glimpse
  | _ => []

/-- The lines of all requests, if this was seen. -/
def linesAll (standings : List Standing) : List Sight → List (List Event.Line)
  | [] => []
  | sight :: rest => sight.lines standings :: linesAll (sight.tell standings).2 rest

theorem lines_of_tell (standings : List Standing) (sight : Sight) :
    (sight.tell standings).1.map Event.line = sight.lines standings := by
  cases sight with
  | nothing => rfl
  | register pattern verdict => cases verdict <;> rfl
  | start pattern role verdict => cases pattern <;> cases verdict <;> rfl
  | call handshake glimpse =>
    rw [tell, lines]
    cases standings[handshake]? with
    | none => rfl
    | some s => exact s.lines_of_tell glimpse

theorem lines_of_tellAll (standings : List Standing) (sights : List Sight) :
    (tellAll standings sights).map (List.map Event.line) = linesAll standings sights := by
  induction sights generalizing standings with
  | nil => rfl
  | cons sight rest ih => rw [tellAll, List.map_cons, lines_of_tell, ih, linesAll]

end Sight

namespace Session

variable {K : KeyAgreement} {T : Type} [Transcript T]

def sight (s : Session K T) : Request → Sight
  | .register registry pattern =>
    match s.registries[registry]? with
    | none => .nothing
    | some r => .register pattern ((r.insert pattern).map fun _ => ())
  | .start registry name role prologue keys =>
    match s.registries[registry]? with
    | none => .nothing
    | some r =>
      .start (r.get name) role
        ((Handshake.start r name role prologue keys : Except _ (Handshake K T × _)).map fun _ => ())
  | .call handshake call =>
    match s.handshakes[handshake]? with
    | none => .nothing
    | some h => .call handshake (h.glimpse call)

def sights (s : Session K T) : List Request → List Sight
  | [] => []
  | request :: rest => s.sight request :: (s.perform request).2.sights rest

/-- A session whose log gives away nothing but what can be seen from outside. -/
structure Discreet (K : KeyAgreement) (T : Type) [Transcript T] (registries : List Registry)
    (requests : List Request) : Prop where
  /-- Each request reports what follows from the sights so far. -/
  told : (fresh registries : Session K T).log (fun _ => true) requests =
    Sight.tellAll [] ((fresh registries : Session K T).sights requests)
  /-- Each report is logged at the level and with the text that it should have: a registration, a start and the
  end of a handshake at debug level, a message as a trace, a failed opening as a warning. -/
  lined : ((fresh registries : Session K T).log (fun _ => true) requests).map (List.map Event.line) =
    Sight.linesAll [] ((fresh registries : Session K T).sights requests)
  /-- The steps reported for a handshake are the first, the second and so on. -/
  counted : ∀ number,
    ((fresh registries : Session K T).log (Request.isCallOn number) requests).flatten.filterMap
        Event.step? =
      List.range (((fresh registries : Session K T).after requests).done number)
  /-- The lengths reported of written messages are the lengths that they have. -/
  measured :
    ((fresh registries : Session K T).log (fun _ => true) requests).flatten.filterMap
        Event.written? =
      (fresh registries : Session K T).written requests
  /-- Sessions that look the same have the same log, whatever is secret in them. -/
  indistinct : ∀ (registries' : List Registry) (requests' : List Request),
    (fresh registries' : Session K T).sights requests' =
        (fresh registries : Session K T).sights requests →
      (fresh registries' : Session K T).log (fun _ => true) requests' =
        (fresh registries : Session K T).log (fun _ => true) requests

/-! ## One request -/

/-- What can be seen of the handshakes, the oldest first. -/
def standings (s : Session K T) : List Standing :=
  s.handshakes.map Handshake.standing

/-- All handshakes use tags of the one length that handshakes use. -/
def Tagged (s : Session K T) : Prop :=
  ∀ h ∈ s.handshakes, h.tagLength = handshakeTagLength

end Session

theorem Registry.events_of_insert {r next : Registry} {pattern : Pattern} {events : List Event}
    (h : r.insert pattern = .ok (next, events)) : events = [.registered pattern.name] := by
  unfold insert at h
  split at h
  · cases h
  · cases h
    rfl

namespace Session

variable {K : KeyAgreement} {T : Type} [Transcript T] {s : Session K T}

/-- A request that is understood from outside. -/
def Told (s : Session K T) (request : Request) : Prop :=
  ((s.perform request).1, (s.perform request).2.standings) =
      (s.sight request).tell s.standings ∧
    (s.perform request).2.Tagged

theorem told_register (tagged : s.Tagged) (registry : Nat) (pattern : Pattern) :
    s.Told (.register registry pattern) := by
  unfold Told perform sight
  dsimp only
  cases s.registries[registry]? with
  | none => exact ⟨rfl, tagged⟩
  | some r =>
    dsimp only
    cases hinsert : r.insert pattern with
    | error e => exact ⟨rfl, tagged⟩
    | ok added =>
      rcases added with ⟨next, events⟩
      refine ⟨?_, tagged⟩
      rw [Registry.events_of_insert hinsert]
      rfl

theorem told_start (lawful : Transcript.Lawful T) (tagged : s.Tagged) (registry : Nat)
    (name : String) (role : Role) (prologue : Bytes) (keys : Keyring) :
    s.Told (.start registry name role prologue keys) := by
  unfold Told perform sight
  dsimp only
  cases s.registries[registry]? with
  | none => exact ⟨rfl, tagged⟩
  | some r =>
    dsimp only
    cases hstart : (Handshake.start r name role prologue keys : Except _ (Handshake K T × _)) with
    | error e =>
      cases r.get name <;> exact ⟨rfl, tagged⟩
    | ok started =>
      rcases started with ⟨h, events⟩
      rcases Handshake.told_start lawful hstart with ⟨pattern, hget, hstanding, hevents, htag⟩
      constructor
      · rw [hget, hevents, standings, List.map_append, List.map_cons, hstanding]
        rfl
      · intro other hother
        rcases List.mem_append.1 hother with hold | hnew
        · exact tagged other hold
        · cases List.mem_singleton.1 hnew
          exact htag

theorem told_call (lawful : Transcript.Lawful T) (tagged : s.Tagged) (handshake : Nat)
    (call : Call) : s.Told (.call handshake call) := by
  unfold Told perform sight
  dsimp only
  cases hfound : s.handshakes[handshake]? with
  | none => exact ⟨rfl, tagged⟩
  | some h =>
    have hone := Handshake.told_perform lawful (tagged h (List.mem_of_getElem? hfound)) call
    have hstanding : s.standings[handshake]? = some h.standing := by
      rw [standings, List.getElem?_map, hfound]
      rfl
    dsimp only
    -- The other handshakes stay as they are, so only the one that is called on has to be looked at.
    constructor
    · rw [Sight.tell, hstanding, standings, List.map_set]
      dsimp only
      rw [← hone.told]
      rfl
    · intro other hother
      rcases List.mem_or_eq_of_mem_set hother with hold | rfl
      · exact tagged other hold
      · exact hone.tagLength

theorem told_perform (lawful : Transcript.Lawful T) (tagged : s.Tagged) (request : Request) :
    s.Told request := by
  cases request with
  | register registry pattern => exact told_register tagged registry pattern
  | start registry name role prologue keys =>
    exact told_start lawful tagged registry name role prologue keys
  | call handshake call => exact told_call lawful tagged handshake call

/-! ## Any number of requests -/

theorem after_cons (request : Request) (rest : List Request) :
    s.after (request :: rest) = (s.perform request).2.after rest :=
  rfl

theorem log_cons (counts : Request → Bool) (request : Request) (rest : List Request) :
    s.log counts (request :: rest) =
      if counts request then (s.perform request).1 :: (s.perform request).2.log counts rest
      else (s.perform request).2.log counts rest :=
  rfl

theorem log_eq_tellAll (lawful : Transcript.Lawful T) (tagged : s.Tagged) (requests : List Request) :
    s.log (fun _ => true) requests = Sight.tellAll s.standings (s.sights requests) := by
  induction requests generalizing s with
  | nil => rfl
  | cons request rest ih =>
    rcases told_perform lawful tagged request with ⟨htold, hnext⟩
    have hrest := ih hnext
    rw [log_cons, if_pos rfl, hrest, sights, Sight.tellAll, ← htold]

/-! ## The steps of one handshake -/

/-- Only a call on a handshake changes the number of its steps. -/
theorem done_perform_of_not_isCallOn (lawful : Transcript.Lawful T) {number : Nat}
    {request : Request} (hother : request.isCallOn number = false) :
    (s.perform request).2.done number = s.done number := by
  cases request with
  | register registry pattern =>
    unfold perform
    dsimp only
    split
    · rfl
    · split <;> rfl
  | start registry name role prologue keys =>
    unfold perform
    dsimp only
    split
    · rfl
    · split
      · rfl
      · next h events hstart =>
        rcases Handshake.told_start lawful hstart with ⟨_, _, hstanding, _, _⟩
        have hzero : h.done = 0 := congrArg Standing.done hstanding
        unfold done
        dsimp only
        by_cases hold : number < s.handshakes.length
        · rw [List.getElem?_append_left hold]
        · -- A new handshake has done as little as one that does not exist.
          have hlength : s.handshakes.length ≤ number := by omega
          rw [List.getElem?_append_right hlength, List.getElem?_eq_none hlength]
          cases number - s.handshakes.length with
          | zero => exact hzero
          | succ later => rfl
  | call handshake call =>
    have hne : handshake ≠ number := by
      simpa [Request.isCallOn] using hother
    unfold perform
    dsimp only
    split
    · rfl
    · unfold done
      dsimp only
      rw [List.getElem?_set_ne hne]

/-- What a call reports of steps is the step that it takes, if it takes one. -/
theorem steps_of_call (lawful : Transcript.Lawful T) (tagged : s.Tagged) (number : Nat)
    (call : Call) :
    List.range (s.done number) ++
        (s.perform (.call number call)).1.filterMap Event.step? =
      List.range ((s.perform (.call number call)).2.done number) := by
  unfold perform
  dsimp only
  cases hfound : s.handshakes[number]? with
  | none => simp [done, hfound]
  | some h =>
    have hone := Handshake.told_perform lawful (tagged h (List.mem_of_getElem? hfound)) call
    have hsteps := h.standing.steps_of_tell (h.glimpse call)
    rw [← hone.told] at hsteps
    have hlength : number < s.handshakes.length := (List.getElem?_eq_some_iff.1 hfound).1
    unfold done
    dsimp only
    rw [hfound, List.getElem?_set_self hlength]
    exact hsteps

theorem steps_of_perform (lawful : Transcript.Lawful T) (tagged : s.Tagged) (number : Nat)
    (requests : List Request) :
    List.range (s.done number) ++
        (s.log (Request.isCallOn number) requests).flatten.filterMap Event.step? =
      List.range ((s.after requests).done number) := by
  induction requests generalizing s with
  | nil => simp [log, after]
  | cons request rest ih =>
    have hrest := ih (told_perform lawful tagged request).2
    rw [log_cons, after_cons]
    by_cases hcall : request.isCallOn number
    · cases request with
      | register registry pattern => cases hcall
      | start registry name role prologue keys => cases hcall
      | call handshake call =>
        obtain rfl : handshake = number := by simpa [Request.isCallOn] using hcall
        rw [if_pos hcall, List.flatten_cons, List.filterMap_append, ← List.append_assoc,
          steps_of_call lawful tagged, hrest]
    · -- What is not a call on this handshake is not counted, and does not move it either.
      have hother : request.isCallOn number = false := by simpa using hcall
      rw [if_neg hcall, ← done_perform_of_not_isCallOn lawful hother, hrest]

/-! ## The lengths of messages -/

theorem written_of_perform (lawful : Transcript.Lawful T) (tagged : s.Tagged) (request : Request) :
    (s.perform request).1.filterMap Event.written? = s.appended request := by
  cases request with
  | register registry pattern =>
    unfold perform
    dsimp only
    split
    · rfl
    · split
      · rfl
      · next hinsert =>
        rw [Registry.events_of_insert hinsert]
        rfl
  | start registry name role prologue keys =>
    unfold perform
    dsimp only
    split
    · rfl
    · split
      · rfl
      · next hstart =>
        rcases Handshake.told_start lawful hstart with ⟨_, _, _, rfl, _⟩
        rfl
  | call handshake call =>
    unfold perform
    dsimp only
    cases hfound : s.handshakes[handshake]? with
    | none => cases call <;> simp [appended, hfound]
    | some h =>
      cases call with
      | write payload buffer random =>
        simp only [appended, hfound]
        exact h.written_write payload buffer random
      | read message buffer =>
        have hone := Handshake.told_perform lawful (tagged h (List.mem_of_getElem? hfound))
          (.read message buffer)
        have hevents := congrArg Prod.fst hone.told
        dsimp only at hevents ⊢
        rw [hevents]
        exact h.standing.written_of_tell_read _ _ _

theorem written_of_log (lawful : Transcript.Lawful T) (tagged : s.Tagged) (requests : List Request) :
    (s.log (fun _ => true) requests).flatten.filterMap Event.written? = s.written requests := by
  induction requests generalizing s with
  | nil => rfl
  | cons request rest ih =>
    have hrest := ih (told_perform lawful tagged request).2
    rw [log_cons, if_pos rfl, List.flatten_cons, List.filterMap_append, hrest, written,
      written_of_perform lawful tagged]

/-- The log of any session, from its first request on, gives away nothing but what can be seen from
outside, and each entry stands at the level of its kind. -/
theorem log_determined_by_sights (lawful : Transcript.Lawful T) (registries : List Registry)
    (requests : List Request) : Discreet K T registries requests := by
  have tagged (registries : List Registry) : (fresh registries : Session K T).Tagged := by
    intro h hmem
    cases hmem
  have htold : (fresh registries : Session K T).log (fun _ => true) requests =
      Sight.tellAll [] ((fresh registries : Session K T).sights requests) :=
    log_eq_tellAll lawful (tagged registries) requests
  refine ⟨htold, ?_, ?_, written_of_log lawful (tagged registries) requests, ?_⟩
  · rw [htold]
    exact Sight.lines_of_tellAll _ _
  · intro number
    have hsteps := steps_of_perform lawful (tagged registries) number requests
    simpa [done, fresh] using hsteps
  · intro registries' requests' hsights
    rw [htold, log_eq_tellAll lawful (tagged registries') requests', hsights]
    rfl

/-- A responder that meets a taken name, a message without its tag and an empty one, and an initiator
that writes. -/
def rehearsal (prologue : Bytes) (key text : UInt8) : List Request :=
  [.register 0 .xx, .start 0 "XX" .responder prologue {},
    .call 0 (.read (List.replicate keyLength key) []), .call 0 (.read [] []),
    .start 0 "XX" .initiator prologue {}, .call 1 (.write [text] [] (.cyclic [key]))]

set_option maxRecDepth 1000 in
/-- Of the three failures only the missing tag is reported, as a warning, and other secrets of the same
lengths leave the same log. -/
theorem log_determined_by_sights_rehearsal :
    Transcript.Lawful Strobe128 ∧
      (fresh [.standard] : Session x25519 Strobe128).log (fun _ => true) (rehearsal [3] 2 7) =
        [[], [.started "XX" .responder], [.payloadRejected], [], [.started "XX" .initiator],
          [.wrote 0 1 49]] ∧
      ((fresh [.standard] : Session x25519 Strobe128).log (fun _ => true) (rehearsal [3] 2 7)).map
          (List.map Event.line) =
        [[], [⟨.debug, "handshake initialized"⟩],
          [⟨.warning, "handshake payload failed authentication"⟩], [],
          [⟨.debug, "handshake initialized"⟩], [⟨.trace, "wrote handshake message"⟩]] ∧
      (fresh [.standard] : Session x25519 Strobe128).log (fun _ => true) (rehearsal [4, 5] 9 8) =
        (fresh [.standard] : Session x25519 Strobe128).log (fun _ => true) (rehearsal [3] 2 7) := by
  let seen : List Sight :=
    [.register .xx (.error .duplicatePattern), .start (.ok .xx) .responder (.ok ()),
      .call 0 (.read 32 (.error .authenticationFailure) (some .payload)),
      .call 0 (.read 0 (.error .malformedMessage) none),
      .start (.ok .xx) .initiator (.ok ()), .call 1 (.write 1 (.ok ()))]
  have hone : (fresh [.standard] : Session x25519 Strobe128).sights (rehearsal [3] 2 7) = seen := by
    rfl
  have hother : (fresh [.standard] : Session x25519 Strobe128).sights (rehearsal [4, 5] 9 8) =
      seen := by
    rfl
  have hdiscreet : Discreet x25519 Strobe128 [.standard] (rehearsal [3] 2 7) :=
    log_determined_by_sights DuplexTranscript.lawful [.standard] (rehearsal [3] 2 7)
  refine ⟨DuplexTranscript.lawful, ?_, ?_, hdiscreet.indistinct _ _ (hother.trans hone.symm)⟩
  · rw [hdiscreet.told, hone]
    rfl
  · rw [hdiscreet.lined, hone]
    rfl

end Session

end DuplexHandshake
