import DuplexHandshake.Proofs.Pattern.RoundTrip
import Mathlib.Data.List.Forall2

/-!
# What is wrong with the text of a pattern

A text may have many faults. They are listed here in the order in which the text is read, without
regard to where reading stops, and the refusal of the text is the first of the list.
-/

namespace DuplexHandshake

/-! ## The first fault decides -/

/-- A verdict on something with these faults: the first of them, if there is any. -/
inductive Blames {ε α : Type} : Except ε α → List ε → Prop where
  | clean (a : α) : Blames (.ok a) []
  | first (e : ε) (later : List ε) : Blames (.error e) (e :: later)

namespace Blames

variable {ε α β : Type}

/-- The faults of what is done later come after those of what is done before. -/
theorem bind {x : Except ε α} {f : α → Except ε β} {before later : List ε} (hx : Blames x before)
    (hf : ∀ a, x = .ok a → Blames (f a) later) : Blames (x >>= f) (before ++ later) := by
  cases hx with
  | clean a => exact hf a rfl
  | first e rest => exact .first e (rest ++ later)

theorem map {x : Except ε α} {faults : List ε} (hx : Blames x faults) (f : α → β) :
    Blames (x >>= fun a => pure (f a)) faults := by
  have hmap : Blames (x >>= fun a => pure (f a)) (faults ++ []) :=
    hx.bind fun a _ => .clean (f a)
  rwa [List.append_nil] at hmap

/-- Of the faults in a list, those of the first item come first. -/
theorem mapM {f : α → Except ε β} {faults : α → List ε} (h : ∀ a, Blames (f a) (faults a))
    (l : List α) : Blames (l.mapM f) (l.flatMap faults) := by
  induction l with
  | nil => exact .clean []
  | cons a l ih =>
    rw [List.mapM_cons, List.flatMap_cons]
    exact (h a).bind fun b _ => ih.map (b :: ·)

end Blames

/-! ## The faults of pattern text -/

namespace Token

def all : List Token :=
  [send .ephemeral, send .static, mix .ephemeral .ephemeral, mix .ephemeral .static,
    mix .static .ephemeral, mix .static .static]

theorem mem_all (t : Token) : t ∈ all := by
  rcases t with k | ⟨a, b⟩
  · cases k <;> decide
  · cases a <;> cases b <;> decide

end Token

/-- An item between commas has to be a token. -/
def itemFaults (item : List Char) : List HandshakeError :=
  if trim item ∈ Token.all.map Token.chars then [] else [.invalidToken]

/-- An item of a pre-message has to be a token, and of the tokens only the static key may be there. -/
def preMessageItemFaults (item : List Char) : List HandshakeError :=
  if trim item ∈ Token.all.map Token.chars then
    if trim item = Token.chars (.send .static) then [] else [.invalidPattern]
  else [.invalidToken]

/-- A line needs an arrow and something behind it; then each item counts. -/
def lineFaults (line : List Char) : List HandshakeError :=
  match trim line with
  | '-' :: '>' :: items | '<' :: '-' :: items =>
    if trim items = [] then [.invalidPattern] else (items.splitOn ',').flatMap itemFaults
  | _ => [.invalidPattern]

def preMessageFaults (text : List Char) : List HandshakeError :=
  if trim text = [] then [] else (text.splitOn ',').flatMap preMessageItemFaults

/-- All that is wrong with the text of a pattern: line after line, then the initiator's pre-message,
then the responder's, and last that there may be no line. -/
def Pattern.faults (initiatorPre responderPre : String) (lines : List String) :
    List HandshakeError :=
  lines.flatMap (fun line => lineFaults line.toList) ++
    (preMessageFaults initiatorPre.toList ++
      (preMessageFaults responderPre.toList ++ if lines = [] then [.invalidPattern] else []))

/-! ## Reading stops at the first fault -/

namespace Token

theorem error_of_ofChars {cs : List Char} {e : HandshakeError} (h : ofChars cs = .error e) :
    e = .invalidToken := by
  unfold ofChars at h
  split at h
  · split at h <;> cases h
    rfl
  · split at h <;> cases h
    rfl
  · cases h
    rfl

theorem chars_injective : Function.Injective chars := by
  intro t u h
  have hread := congrArg ofChars h
  rw [ofChars_chars, ofChars_chars] at hread
  exact Except.ok.inj hread

theorem mem_map_chars_of_ofChars {cs : List Char} {t : Token} (h : ofChars cs = .ok t) :
    cs ∈ all.map chars := by
  rw [← chars_of_ofChars h]
  exact List.mem_map_of_mem t.mem_all

theorem notMem_map_chars_of_ofChars {cs : List Char} {e : HandshakeError}
    (h : ofChars cs = .error e) : cs ∉ all.map chars := by
  intro hmem
  rcases List.mem_map.1 hmem with ⟨t, _, rfl⟩
  rw [ofChars_chars] at h
  cases h

end Token

theorem blames_item (item : List Char) : Blames (Token.ofChars (trim item)) (itemFaults item) := by
  unfold itemFaults
  cases hread : Token.ofChars (trim item) with
  | ok t =>
    rw [if_pos (Token.mem_map_chars_of_ofChars hread)]
    exact .clean t
  | error e =>
    rw [if_neg (Token.notMem_map_chars_of_ofChars hread), Token.error_of_ofChars hread]
    exact .first _ []

theorem blames_preMessageItem (item : List Char) :
    Blames (parsePreMessageItem item) (preMessageItemFaults item) := by
  rw [parsePreMessageItem_eq]
  unfold preMessageItemFaults
  cases hread : Token.ofChars (trim item) with
  | ok t =>
    rw [if_pos (Token.mem_map_chars_of_ofChars hread), ← Token.chars_of_ofChars hread]
    -- The list of faults looks at the text and the reader at the token; they mean the same.
    by_cases ht : t = .send .static
    · subst ht
      exact .clean _
    · rw [if_neg (fun hchars => ht (Token.chars_injective hchars))]
      have hrefused : t.inPreMessage = .error .invalidPattern := if_neg ht
      have hfirst : Blames t.inPreMessage [.invalidPattern] := hrefused ▸ .first _ []
      exact hfirst
  | error e =>
    rw [if_neg (Token.notMem_map_chars_of_ofChars hread), Token.error_of_ofChars hread]
    exact .first _ []

theorem blames_step (direction : Direction) (items : List Char) :
    Blames (Step.ofTokenText direction items)
      (if trim items = [] then [.invalidPattern] else (items.splitOn ',').flatMap itemFaults) := by
  unfold Step.ofTokenText
  split
  · exact .first _ []
  · have hitems : Blames (parseTokens items) ((items.splitOn ',').flatMap itemFaults) :=
      .mapM blames_item _
    exact hitems.map (Step.mk direction)

theorem lineFaults_of_no_arrow {line : List Char} (hright : ∀ items, trim line ≠ '-' :: '>' :: items)
    (hleft : ∀ items, trim line ≠ '<' :: '-' :: items) : lineFaults line = [.invalidPattern] := by
  unfold lineFaults
  split
  · next htrim => exact absurd htrim (hright _)
  · next htrim => exact absurd htrim (hleft _)
  · rfl

theorem blames_line (line : List Char) : Blames (Step.ofChars line) (lineFaults line) := by
  unfold Step.ofChars
  split
  · next items htrim =>
    unfold lineFaults
    rw [htrim]
    exact blames_step .toResponder items
  · next items htrim =>
    unfold lineFaults
    rw [htrim]
    exact blames_step .toInitiator items
  · next hright hleft =>
    rw [lineFaults_of_no_arrow hright hleft]
    exact .first _ []

theorem blames_preMessage (text : List Char) :
    Blames (parsePreMessage text) (preMessageFaults text) := by
  unfold parsePreMessage preMessageFaults
  split
  · exact .clean []
  · exact .mapM blames_preMessageItem _

/-! ## What has been read is sound -/

section Success

variable {ε α β : Type}

theorem bind_eq_ok {x : Except ε α} {f : α → Except ε β} {b : β} (h : (x >>= f) = .ok b) :
    ∃ a, x = .ok a ∧ f a = .ok b := by
  cases x with
  | error e => cases h
  | ok a => exact ⟨a, rfl, h⟩

theorem forall₂_of_mapM {f : α → Except ε β} {l : List α} {bs : List β} (h : l.mapM f = .ok bs) :
    List.Forall₂ (fun a b => f a = .ok b) l bs := by
  induction l generalizing bs with
  | nil =>
    cases h
    exact .nil
  | cons a l ih =>
    rw [List.mapM_cons] at h
    rcases bind_eq_ok h with ⟨c, hc, hrest⟩
    rcases bind_eq_ok hrest with ⟨cs, hcs, hpure⟩
    cases hpure
    exact .cons hc (ih hcs)

/-- What holds of everything that can be read holds of all that is read from a list. -/
theorem forall_of_mapM {f : α → Except ε β} {p : β → Prop} (hf : ∀ a b, f a = .ok b → p b)
    {l : List α} {bs : List β} (h : l.mapM f = .ok bs) : ∀ b ∈ bs, p b := by
  have hread := forall₂_of_mapM h
  clear h
  induction hread with
  | nil => simp
  | cons hb _ ih => exact List.forall_mem_cons.2 ⟨hf _ _ hb, ih⟩

end Success

theorem Step.tokens_ne_nil_of_ofTokenText {direction : Direction} {items : List Char} {s : Step}
    (h : ofTokenText direction items = .ok s) : s.tokens ≠ [] := by
  unfold ofTokenText at h
  split at h
  · cases h
  · rcases bind_eq_ok h with ⟨tokens, htokens, hpure⟩
    cases hpure
    have hlength := (forall₂_of_mapM htokens).length_eq
    intro hnil
    rw [show tokens = [] from hnil] at hlength
    exact List.splitOn_ne_nil ',' items (List.eq_nil_of_length_eq_zero hlength)

theorem Step.tokens_ne_nil_of_parse (line : String) (s : Step) (h : parse line = .ok s) :
    s.tokens ≠ [] := by
  unfold parse ofChars at h
  split at h
  · exact tokens_ne_nil_of_ofTokenText h
  · exact tokens_ne_nil_of_ofTokenText h
  · cases h

theorem static_of_parsePreMessageItem (item : List Char) (t : Token)
    (h : parsePreMessageItem item = .ok t) : t = .send .static := by
  unfold parsePreMessageItem at h
  split at h <;> cases h
  rfl

theorem static_of_parsePreMessage {text : List Char} {ts : List Token}
    (h : parsePreMessage text = .ok ts) : ∀ t ∈ ts, t = .send .static := by
  unfold parsePreMessage at h
  split at h
  · cases h
    simp
  · exact forall_of_mapM static_of_parsePreMessageItem h

namespace Pattern

theorem blames_parse (name initiatorPre responderPre : String) (lines : List String) :
    Blames (parse name initiatorPre responderPre lines)
      (faults initiatorPre responderPre lines) := by
  have hlines := Blames.mapM (fun line : String => blames_line line.toList) lines
  refine hlines.bind fun steps hsteps => ?_
  refine (blames_preMessage _).bind fun is his => ?_
  refine (blames_preMessage _).bind fun rs hrs => ?_
  -- Of what makes parts unsound, the readers of lines and pre-messages leave only one thing open.
  have hread := forall₂_of_mapM hsteps
  have htokens := forall_of_mapM Step.tokens_ne_nil_of_parse hsteps
  unfold ofParts
  cases hread with
  | nil =>
    rw [if_pos rfl, dif_neg (fun h => h.2.2.1 rfl)]
    exact .first _ []
  | cons hstep hlater =>
    rw [if_neg (List.cons_ne_nil _ _), dif_pos ⟨static_of_parsePreMessage his,
      static_of_parsePreMessage hrs, List.cons_ne_nil _ _, htokens⟩]
    exact .clean _

theorem name_of_parse {name initiatorPre responderPre : String} {lines : List String} {p : Pattern}
    (h : parse name initiatorPre responderPre lines = .ok p) : p.name = name := by
  rcases bind_eq_ok h with ⟨steps, _, h⟩
  rcases bind_eq_ok h with ⟨is, _, h⟩
  rcases bind_eq_ok h with ⟨rs, _, h⟩
  exact name_of_ofParts h

/-! ## Text and parts -/

/-- Under a name, the text of a pattern and the parts of one come to the same. -/
structure TextFaithful (name : String) : Prop where
  /-- Text that is rendered from parts makes what the parts make. -/
  rendered : ∀ (initiatorPre responderPre : List Token) (steps : List Step),
    parse name (preMessageText initiatorPre) (preMessageText responderPre) (steps.map Step.text) =
      ofParts name initiatorPre responderPre steps
  /-- Text that is read gives a sound pattern, and the text of that pattern gives it again. -/
  reread : ∀ (initiatorPre responderPre : String) (lines : List String) (p : Pattern),
    parse name initiatorPre responderPre lines = .ok p →
      p.name = name ∧ p.steps ≠ [] ∧ (∀ s ∈ p.steps, s.tokens ≠ []) ∧
        (∀ t ∈ p.initiatorPre ++ p.responderPre, t = .send .static) ∧
        parse p.name (preMessageText p.initiatorPre) (preMessageText p.responderPre)
          (p.steps.map Step.text) = .ok p
  /-- Text is refused exactly for its faults, and for the first of them. -/
  blamed : ∀ (initiatorPre responderPre : String) (lines : List String),
    Blames (parse name initiatorPre responderPre lines) (faults initiatorPre responderPre lines)

theorem textFaithful (name : String) : TextFaithful name where
  rendered := parse_text name
  reread := by
    intro initiatorPre responderPre lines p hparse
    have hstatic : ∀ t ∈ p.initiatorPre ++ p.responderPre, t = .send .static := by
      intro t ht
      rcases List.mem_append.1 ht with ht | ht
      · exact p.initiatorPre_static t ht
      · exact p.responderPre_static t ht
    have htext := parse_text p.name p.initiatorPre p.responderPre p.steps
    rw [ofParts_self] at htext
    exact ⟨name_of_parse hparse, p.steps_ne_nil, p.tokens_ne_nil, hstatic, htext⟩
  blamed := blames_parse name

/-- A text with a fault in every part. The lines count before the pre-messages, so it is refused for
the item `q`. -/
example :
    faults "s, x" "es" ["-> e, q", "ee"] =
      [.invalidToken, .invalidPattern, .invalidToken, .invalidPattern] := by
  decide

end Pattern

end DuplexHandshake
