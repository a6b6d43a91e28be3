import DuplexHandshake.Pattern.Basic
import DuplexHandshake.Proofs.Text.Blank

/-!
# Patterns as text and as parts

A pattern can be given as text or as parts, and it does not matter which: text that is rendered from
parts is read as these parts, or refused as they are.
-/

namespace DuplexHandshake

/-! ## Lists of tokens -/

theorem KeyKind.letter_not_blank (k : KeyKind) : isBlank k.letter = false := by
  cases k <;> decide

namespace Token

theorem trim_chars (t : Token) : trim t.chars = t.chars := by
  rcases t with k | ⟨a, b⟩
  · cases k <;> decide
  · cases a <;> cases b <;> decide

theorem comma_notMem_chars (t : Token) : ',' ∉ t.chars := by
  rcases t with k | ⟨a, b⟩
  · cases k <;> decide
  · cases a <;> cases b <;> decide

/-- A token ends in a letter. -/
theorem exists_chars_eq (t : Token) : ∃ front k, t.chars = front ++ [KeyKind.letter k] := by
  cases t with
  | send k => exact ⟨[], k, rfl⟩
  | mix a b => exact ⟨[a.letter], b, rfl⟩

end Token

variable {t : Token} {ts : List Token}

theorem renderTokens_singleton (t : Token) : renderTokens [t] = t.chars := by
  simp [renderTokens]

theorem renderTokens_cons_cons (t u : Token) (us : List Token) :
    renderTokens (t :: u :: us) = t.chars ++ [',', ' '] ++ renderTokens (u :: us) :=
  List.intercalate_cons_cons

/-- Each token but the first one has a blank in front of it. -/
theorem renderTokens_cons (t : Token) (ts : List Token) :
    renderTokens (t :: ts) = [','].intercalate (t.chars :: ts.map (' ' :: ·.chars)) := by
  induction ts generalizing t with
  | nil => rfl
  | cons u us ih =>
    rw [renderTokens_cons_cons, ih, List.map_cons, List.intercalate_cons_cons]
    cases us with
    | nil => simp
    | cons v vs => simp [List.intercalate_cons_cons]

/-- What stands between the commas of rendered tokens are the tokens. -/
theorem map_trim_splitOn_renderTokens (h : ts ≠ []) :
    ((renderTokens ts).splitOn ',').map trim = ts.map Token.chars := by
  cases ts with
  | nil => exact absurd rfl h
  | cons t ts =>
    -- With the blanks on the side of the items, splitting undoes joining.
    have hcomma : ∀ item ∈ t.chars :: ts.map (' ' :: ·.chars), ',' ∉ item := by
      intro item hitem
      rcases List.mem_cons.1 hitem with rfl | hitem
      · exact t.comma_notMem_chars
      · rcases List.mem_map.1 hitem with ⟨u, _, rfl⟩
        simpa using u.comma_notMem_chars
    rw [renderTokens_cons, List.splitOn_intercalate ',' hcomma (List.cons_ne_nil _ _)]
    simp [Token.trim_chars, trim_cons_of_blank isBlank_space]

/-- Whatever reads the trimmed items of rendered tokens reads the tokens one after another. -/
theorem mapM_splitOn {m : Type → Type} [Monad m] [LawfulMonad m] {α : Type} {text : List Char}
    (h : (text.splitOn ',').map trim = ts.map Token.chars) (f : List Char → m α) :
    (text.splitOn ',').mapM (fun item => f (trim item)) = ts.mapM (fun t => f t.chars) := by
  have hmap := congrArg (List.mapM f) h
  rw [List.mapM_map, List.mapM_map] at hmap
  exact hmap

theorem exists_renderTokens_eq (h : ts ≠ []) :
    ∃ front k, renderTokens ts = front ++ [KeyKind.letter k] := by
  induction ts with
  | nil => exact absurd rfl h
  | cons t ts ih =>
    cases ts with
    | nil =>
      rw [renderTokens_singleton]
      exact t.exists_chars_eq
    | cons u us =>
      rcases ih (List.cons_ne_nil _ _) with ⟨front, k, hfront⟩
      refine ⟨t.chars ++ [',', ' '] ++ front, k, ?_⟩
      rw [renderTokens_cons_cons, hfront, ← List.append_assoc]

theorem trim_renderTokens_ne_nil (h : ts ≠ []) : trim (renderTokens ts) ≠ [] := by
  rcases exists_renderTokens_eq h with ⟨front, k, hfront⟩
  rw [hfront]
  exact trim_ne_nil (List.mem_append_right front (List.mem_singleton_self _)) k.letter_not_blank

/-! ## Steps and pre-messages -/

/-- A list that a guard lets through whole or not at all. -/
theorem mapM_guard {α ε : Type} (p : α → Prop) [DecidablePred p] (e : ε) (l : List α) :
    l.mapM (fun a => if p a then Except.ok a else .error e) =
      if ∀ a ∈ l, p a then .ok l else .error e := by
  induction l with
  | nil => rfl
  | cons a l ih =>
    rw [List.mapM_cons, ih]
    by_cases ha : p a
    · rw [if_pos ha]
      by_cases hl : ∀ b ∈ l, p b
      · rw [if_pos hl, if_pos (List.forall_mem_cons.2 ⟨ha, hl⟩)]
        rfl
      · rw [if_neg hl, if_neg (fun hall => hl (List.forall_mem_cons.1 hall).2)]
        rfl
    · rw [if_neg ha, if_neg (fun hall => ha (List.forall_mem_cons.1 hall).1)]
      rfl

theorem Step.ofChars_chars (s : Step) :
    Step.ofChars s.chars = if s.tokens ≠ [] then .ok s else .error .invalidPattern := by
  rcases s with ⟨direction, tokens⟩
  by_cases htokens : tokens = []
  · -- There is nothing behind the arrow.
    subst htokens
    cases direction <;> decide
  · have hne : trim (' ' :: renderTokens tokens) ≠ [] := by
      rw [trim_cons_of_blank isBlank_space]
      exact trim_renderTokens_ne_nil htokens
    have hitems : ((' ' :: renderTokens tokens).splitOn ',').map trim = tokens.map Token.chars := by
      rw [map_trim_splitOn_cons isBlank_space (by decide), map_trim_splitOn_renderTokens htokens]
    have hparse : parseTokens (' ' :: renderTokens tokens) = .ok tokens := by
      rw [parseTokens, mapM_splitOn hitems]
      simp only [Token.ofChars_chars]
      exact (List.mapM_pure).trans (by simp; rfl)
    have htext : ofTokenText direction (' ' :: renderTokens tokens) = .ok ⟨direction, tokens⟩ := by
      rw [ofTokenText, if_neg hne, hparse]
      rfl
    -- The line starts with the arrow and ends with the last letter, so nothing is trimmed off it.
    have hline : trim (direction.arrow ++ ' ' :: renderTokens tokens) =
        direction.arrow ++ ' ' :: renderTokens tokens := by
      rcases exists_renderTokens_eq htokens with ⟨front, k, hfront⟩
      rw [hfront]
      cases direction with
      | toResponder => exact trim_of_ends (by decide) k.letter_not_blank ('>' :: ' ' :: front)
      | toInitiator => exact trim_of_ends (by decide) k.letter_not_blank ('-' :: ' ' :: front)
    rw [if_pos htokens, ← htext, ofChars, chars, hline]
    cases direction <;> rfl

theorem Step.parse_text (s : Step) :
    Step.parse s.text = if s.tokens ≠ [] then .ok s else .error .invalidPattern := by
  rw [Step.parse, Step.text, String.toList_ofList, Step.ofChars_chars]

/-- Lets a token through that may stand in a pre-message. -/
def Token.inPreMessage (t : Token) : Except HandshakeError Token :=
  if t = .send .static then .ok t else .error .invalidPattern

theorem parsePreMessageItem_eq (item : List Char) :
    parsePreMessageItem item = Token.ofChars (trim item) >>= Token.inPreMessage := by
  unfold parsePreMessageItem
  cases Token.ofChars (trim item) with
  | error e => rfl
  | ok t =>
    rcases t with k | ⟨a, b⟩
    · cases k <;> rfl
    · rfl

/-- A pre-message as it stands in pattern text. -/
def preMessageText (ts : List Token) : String :=
  String.ofList (renderTokens ts)

theorem parsePreMessage_text (ts : List Token) :
    parsePreMessage (preMessageText ts).toList =
      if ∀ t ∈ ts, t = .send .static then .ok ts else .error .invalidPattern := by
  rw [preMessageText, String.toList_ofList]
  by_cases h : ts = []
  · subst h
    rfl
  · have hitems := map_trim_splitOn_renderTokens h
    rw [parsePreMessage, if_neg (trim_renderTokens_ne_nil h), ← mapM_guard,
      funext parsePreMessageItem_eq,
      mapM_splitOn hitems fun cs => Token.ofChars cs >>= Token.inPreMessage]
    simp only [Token.ofChars_chars]
    rfl

/-! ## Patterns -/

namespace Pattern

/-- Text that is rendered from parts is read as what the parts make, a pattern or a refusal. -/
theorem parse_text (name : String) (initiatorPre responderPre : List Token) (steps : List Step) :
    parse name (preMessageText initiatorPre) (preMessageText responderPre) (steps.map Step.text) =
      ofParts name initiatorPre responderPre steps := by
  have hlines : (steps.map Step.text).mapM Step.parse =
      if ∀ s ∈ steps, s.tokens ≠ [] then .ok steps else .error .invalidPattern := by
    rw [List.mapM_map, ← mapM_guard]
    exact congrArg (List.mapM · steps) (funext Step.parse_text)
  rw [parse, hlines, parsePreMessage_text, parsePreMessage_text]
  -- Whatever one of the readers refuses would make the parts unsound as well.
  by_cases hsteps : ∀ s ∈ steps, s.tokens ≠ []
  · rw [if_pos hsteps]
    by_cases hinitiator : ∀ t ∈ initiatorPre, t = .send .static
    · rw [if_pos hinitiator]
      by_cases hresponder : ∀ t ∈ responderPre, t = .send .static
      · rw [if_pos hresponder]
        rfl
      · rw [if_neg hresponder, ofParts, dif_neg (fun h => hresponder h.2.1)]
        rfl
    · rw [if_neg hinitiator, ofParts, dif_neg (fun h => hinitiator h.1)]
      rfl
  · rw [if_neg hsteps, ofParts, dif_neg (fun h => hsteps h.2.2.2)]
    rfl

/-- A pattern is made of its parts. -/
theorem ofParts_self (p : Pattern) :
    ofParts p.name p.initiatorPre p.responderPre p.steps = .ok p :=
  dif_pos ⟨p.initiatorPre_static, p.responderPre_static, p.steps_ne_nil, p.tokens_ne_nil⟩

theorem name_of_ofParts {name : String} {initiatorPre responderPre : List Token} {steps : List Step}
    {p : Pattern} (h : ofParts name initiatorPre responderPre steps = .ok p) : p.name = name := by
  unfold ofParts at h
  split at h
  · cases h
    rfl
  · cases h

end Pattern

end DuplexHandshake
