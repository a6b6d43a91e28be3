import DuplexHandshake.Proofs.Pattern.Faults

/-!
# The grammar of pattern text

A line of pattern text is an arrow and a list of tokens, a pre-message is a list of static keys or
nothing. White space may stand at both ends, behind the arrow and around the tokens, and nowhere else.
The readers accept exactly these texts; what they refuse they refuse for the first item that does not
fit, or for want of an arrow or of any item.
-/

namespace DuplexHandshake

/-! ## What may be written -/

/-- The six words of pattern text. -/
inductive Spells : List Char → Token → Prop where
  | e : Spells ['e'] (.send .ephemeral)
  | s : Spells ['s'] (.send .static)
  | ee : Spells ['e', 'e'] (.mix .ephemeral .ephemeral)
  | es : Spells ['e', 's'] (.mix .ephemeral .static)
  | se : Spells ['s', 'e'] (.mix .static .ephemeral)
  | ss : Spells ['s', 's'] (.mix .static .static)

/-- A token with white space around it, or none. -/
inductive Item : List Char → Token → Prop where
  | mk {before word after : List Char} {t : Token} :
      Blank before → Spells word t → Blank after → Item (before ++ word ++ after) t

/-- One token or more, with a comma between each and the next. -/
inductive Items : List Char → List Token → Prop where
  | last {item : List Char} {t : Token} : Item item t → Items item [t]
  | cons {item rest : List Char} {t : Token} {ts : List Token} :
      Item item t → Items rest ts → Items (item ++ ',' :: rest) (t :: ts)

/-- A line: an arrow with white space in front of it or none, and the tokens. -/
inductive Line : List Char → Step → Prop where
  | mk {before items : List Char} {direction : Direction} {ts : List Token} :
      Blank before → Items items ts → Line (before ++ direction.arrow ++ items) ⟨direction, ts⟩

/-- Why an item may not stand in a pre-message. -/
inductive Unfit : List Char → HandshakeError → Prop where
  | otherToken {item : List Char} {t : Token} :
      Item item t → t ≠ .send .static → Unfit item .invalidPattern
  | noToken {item : List Char} : (∀ t, ¬ Item item t) → Unfit item .invalidToken

/-! ## Reading an item -/

theorem spells_iff {word : List Char} {t : Token} : Spells word t ↔ t.chars = word := by
  constructor
  · intro h
    cases h <;> rfl
  · rintro rfl
    rcases t with k | ⟨a, b⟩
    · cases k
      · exact .e
      · exact .s
    · cases a <;> cases b
      · exact .ee
      · exact .es
      · exact .se
      · exact .ss

theorem item_iff {item : List Char} {t : Token} : Item item t ↔ Token.ofChars (trim item) = .ok t := by
  constructor
  · rintro ⟨hbefore, hword, hafter⟩
    cases spells_iff.1 hword
    rw [List.append_assoc, trim_blank_append hbefore, trim_append_blank hafter, t.trim_chars,
      t.ofChars_chars]
  · intro h
    obtain ⟨before, after, hbefore, hafter, hitem⟩ := exists_blank_trim item
    rw [hitem, ← List.append_assoc]
    exact .mk hbefore (spells_iff.2 (Token.chars_of_ofChars h)) hafter

theorem Item.comma_notMem {item : List Char} {t : Token} (h : Item item t) : ',' ∉ item := by
  obtain ⟨hbefore, hword, hafter⟩ := h
  cases spells_iff.1 hword
  have hcomma : isBlank ',' = false := by decide
  rw [List.mem_append, List.mem_append]
  rintro ((hmem | hmem) | hmem)
  · cases hcomma.symm.trans (hbefore _ hmem)
  · exact t.comma_notMem_chars hmem
  · cases hcomma.symm.trans (hafter _ hmem)

/-- An item that is no token is refused as that. -/
theorem error_of_item {item : List Char} {e : HandshakeError} :
    Token.ofChars (trim item) = .error e ↔ e = .invalidToken ∧ ∀ t, ¬ Item item t := by
  simp only [item_iff]
  cases hread : Token.ofChars (trim item) with
  | ok t => simp
  | error e' =>
    cases Token.error_of_ofChars hread
    simp [eq_comm]

/-! ## Reading a list -/

section List

variable {ε α β : Type} {f : α → Except ε β}

theorem mapM_eq_ok_iff {l : List α} {bs : List β} :
    l.mapM f = .ok bs ↔ List.Forall₂ (fun a b => f a = .ok b) l bs := by
  constructor
  · exact forall₂_of_mapM
  · intro h
    induction h with
    | nil => rfl
    | cons hb _ ih =>
      rw [List.mapM_cons, hb, ih]
      rfl

/-- Where an item of a list fails and none before it does, it is the first item, or the first item is read and
the others have such an item. -/
theorem exists_failure_cons {first : α} {l : List α} {e : ε} :
    (∃ before a after, first :: l = before ++ a :: after ∧ (∀ x ∈ before, ∃ b, f x = .ok b) ∧
        f a = .error e) ↔
      f first = .error e ∨ (∃ b, f first = .ok b) ∧
        ∃ before a after, l = before ++ a :: after ∧ (∀ x ∈ before, ∃ b, f x = .ok b) ∧
          f a = .error e := by
  constructor
  · rintro ⟨before, a, after, hsplit, hbefore, ha⟩
    cases before with
    | nil =>
      cases hsplit
      exact .inl ha
    | cons x before =>
      cases hsplit
      rw [List.forall_mem_cons] at hbefore
      exact .inr ⟨hbefore.1, before, a, after, rfl, hbefore.2, ha⟩
  · rintro (hfirst | ⟨hfirst, before, a, after, rfl, hbefore, ha⟩)
    · exact ⟨[], first, l, rfl, by simp, hfirst⟩
    · exact ⟨first :: before, a, after, rfl, List.forall_mem_cons.2 ⟨hfirst, hbefore⟩, ha⟩

/-- Reading a list fails with the error of the first item that cannot be read. -/
theorem mapM_eq_error_iff {l : List α} {e : ε} :
    l.mapM f = .error e ↔
      ∃ before a after, l = before ++ a :: after ∧ (∀ x ∈ before, ∃ b, f x = .ok b) ∧
        f a = .error e := by
  induction l with
  | nil =>
    apply iff_of_false
    · intro h
      cases h
    · rintro ⟨before, a, after, hnil, _⟩
      cases before <;> cases hnil
  | cons first l ih =>
    rw [List.mapM_cons, exists_failure_cons, ← ih]
    -- The rest of the list is only read once the first item has been.
    cases f first with
    | error e' => simp [bind, Except.bind]
    | ok b => cases l.mapM f <;> simp [bind, Except.bind, pure, Except.pure]

theorem forall₂_and_right {R : α → β → Prop} {p : β → Prop} {l : List α} {bs : List β} :
    List.Forall₂ (fun a b => R a b ∧ p b) l bs ↔ List.Forall₂ R l bs ∧ ∀ b ∈ bs, p b := by
  constructor
  · intro h
    induction h with
    | nil => exact ⟨.nil, by simp⟩
    | cons hb _ ih => exact ⟨.cons hb.1 ih.1, List.forall_mem_cons.2 ⟨hb.2, ih.2⟩⟩
  · rintro ⟨h, hp⟩
    induction h with
    | nil => exact .nil
    | cons hb _ ih =>
      rw [List.forall_mem_cons] at hp
      exact .cons ⟨hb, hp.1⟩ (ih hp.2)

end List

theorem Items.forall₂ {text : List Char} {ts : List Token} (h : Items text ts) :
    List.Forall₂ Item (text.splitOn ',') ts := by
  induction h with
  | last hitem =>
    rw [List.splitOn_eq_singleton hitem.comma_notMem]
    exact .cons hitem .nil
  | cons hitem _ ih =>
    rw [List.splitOn_append_cons_self_of_not_mem hitem.comma_notMem]
    exact .cons hitem ih

theorem items_of_forall₂ {items : List (List Char)} {ts : List Token}
    (h : List.Forall₂ Item items ts) (hne : items ≠ []) : Items ([','].intercalate items) ts := by
  induction h with
  | nil => exact absurd rfl hne
  | cons hitem hlater ih =>
    cases hlater with
    | nil =>
      rw [List.intercalate_singleton]
      exact .last hitem
    | cons hnext hrest =>
      rw [List.intercalate_cons_cons, List.append_assoc]
      exact .cons hitem (ih (List.cons_ne_nil _ _))

/-- Tokens are listed in a text if what stands between its commas are these tokens. -/
theorem items_iff {text : List Char} {ts : List Token} :
    Items text ts ↔ List.Forall₂ Item (text.splitOn ',') ts := by
  constructor
  · exact Items.forall₂
  · intro h
    have hitems := items_of_forall₂ h (List.splitOn_ne_nil ',' text)
    rwa [List.intercalate_splitOn] at hitems

theorem parseTokens_eq_ok_iff {text : List Char} {ts : List Token} :
    parseTokens text = .ok ts ↔ Items text ts := by
  have hitem : Item = fun item t => Token.ofChars (trim item) = .ok t :=
    funext fun _ => funext fun _ => propext item_iff
  rw [parseTokens, mapM_eq_ok_iff, items_iff, hitem]

theorem error_of_parseTokens {text : List Char} {e : HandshakeError}
    (h : parseTokens text = .error e) : e = .invalidToken := by
  obtain ⟨_, item, _, _, _, hitem⟩ := mapM_eq_error_iff.1 h
  exact Token.error_of_ofChars hitem

theorem Items.not_blank {text : List Char} {ts : List Token} (h : Items text ts) : ¬ Blank text := by
  intro hblank
  cases h with
  | last hitem =>
    have hread := item_iff.1 hitem
    rw [trim_eq_nil_iff.2 hblank] at hread
    cases hread
  | cons hitem _ =>
    have hcomma : isBlank ',' = true := hblank _ (List.mem_append_right _ List.mem_cons_self)
    revert hcomma
    decide

/-- White space behind the last token is part of its item, or is not there. -/
theorem Items.append_blank {text after : List Char} {ts : List Token} (h : Items text ts)
    (hafter : Blank after) : Items (text ++ after) ts := by
  induction h with
  | last hitem => exact .last (item_iff.2 (by rw [trim_append_blank hafter, item_iff.1 hitem]))
  | cons hitem _ ih =>
    rw [List.append_assoc, List.cons_append]
    exact .cons hitem ih

theorem Items.rdropWhile {text : List Char} {ts : List Token} (h : Items text ts) :
    Items (text.rdropWhile isBlank) ts := by
  induction h with
  | last hitem => exact .last (item_iff.2 (by rw [trim_rdropWhile, item_iff.1 hitem]))
  | cons hitem _ ih =>
    rw [rdropWhile_append_cons (by decide)]
    exact .cons hitem ih

/-! ## Reading a line -/

/-- The arrow at the front of a text tells the direction. -/
theorem Direction.eq_of_arrow_append {a b : Direction} {x y : List Char}
    (h : a.arrow ++ x = b.arrow ++ y) : a = b ∧ x = y := by
  cases a <;> cases b <;> simp_all [arrow]

namespace Step

variable {line rest : List Char} {direction : Direction}

theorem ofTokenText_eq_ok_iff {s : Step} :
    ofTokenText direction rest = .ok s ↔ s.direction = direction ∧ Items rest s.tokens := by
  unfold ofTokenText
  constructor
  · intro h
    split at h
    · cases h
    · obtain ⟨ts, hts, hpure⟩ := bind_eq_ok h
      cases hpure
      exact ⟨rfl, parseTokens_eq_ok_iff.1 hts⟩
  · rintro ⟨rfl, hitems⟩
    rw [if_neg (fun hnil => hitems.not_blank (trim_eq_nil_iff.1 hnil)),
      parseTokens_eq_ok_iff.2 hitems]
    rfl

theorem ofTokenText_eq_error_iff {e : HandshakeError} :
    ofTokenText direction rest = .error e ↔
      Blank rest ∧ e = .invalidPattern ∨
        ¬ Blank rest ∧ (∀ ts, ¬ Items rest ts) ∧ e = .invalidToken := by
  have hnil : trim rest = [] ↔ Blank rest := trim_eq_nil_iff
  unfold ofTokenText
  by_cases hblank : Blank rest
  · simp [hnil.2 hblank, hblank, eq_comm]
  · rw [if_neg (fun h => hblank (hnil.1 h))]
    simp only [hblank, false_and, not_false_eq_true, true_and, false_or, ← parseTokens_eq_ok_iff]
    cases hread : parseTokens rest with
    | ok ts =>
      apply iff_of_false
      · intro h
        cases h
      · rintro ⟨hnone, _⟩
        exact hnone ts rfl
    | error e' =>
      cases error_of_parseTokens hread
      constructor
      · intro h
        cases h
        exact ⟨fun ts h => (nomatch h), rfl⟩
      · rintro ⟨_, rfl⟩
        rfl

/-- White space in front of the arrow is trimmed off, and so is that behind the last token. -/
theorem trim_arrow_append (direction : Direction) {before : List Char} (hbefore : Blank before)
    (items : List Char) :
    trim (before ++ direction.arrow ++ items) = direction.arrow ++ items.rdropWhile isBlank := by
  have hdash : isBlank '-' = false := by decide
  have hright : isBlank '>' = false := by decide
  have hleft : isBlank '<' = false := by decide
  rw [List.append_assoc, trim_blank_append hbefore]
  cases direction with
  | toResponder =>
    rw [Direction.arrow, List.cons_append, trim_cons hdash]
    exact congrArg ('-' :: ·) (rdropWhile_append_cons hright [] items)
  | toInitiator =>
    rw [Direction.arrow, List.cons_append, trim_cons hleft]
    exact congrArg ('<' :: ·) (rdropWhile_append_cons hdash [] items)

/-- Either there is an arrow at the front of a line and the tokens are read behind it, or there is none
and the line is refused. -/
theorem ofChars_cases (line : List Char) :
    (∃ direction rest, trim line = Direction.arrow direction ++ rest ∧
        ofChars line = ofTokenText direction rest) ∨
      (∀ direction rest, trim line ≠ Direction.arrow direction ++ rest) ∧
        ofChars line = .error .invalidPattern := by
  unfold ofChars
  split
  · next rest htrim => exact .inl ⟨.toResponder, rest, htrim, rfl⟩
  · next rest htrim => exact .inl ⟨.toInitiator, rest, htrim, rfl⟩
  · next hright hleft =>
    refine .inr ⟨?_, rfl⟩
    intro direction rest htrim
    cases direction with
    | toResponder => exact hright rest htrim
    | toInitiator => exact hleft rest htrim

/-- There is an arrow on a line of the grammar, and the tokens are behind it. -/
theorem line_iff_of_arrow {s : Step} (h : trim line = direction.arrow ++ rest) :
    Line line s ↔ s.direction = direction ∧ Items rest s.tokens := by
  constructor
  · rintro ⟨hbefore, hitems⟩
    rw [trim_arrow_append _ hbefore] at h
    obtain ⟨rfl, rfl⟩ := Direction.eq_of_arrow_append h
    exact ⟨rfl, hitems.rdropWhile⟩
  · rintro ⟨rfl, hitems⟩
    obtain ⟨before, after, hbefore, hafter, hline⟩ := exists_blank_trim line
    rw [hline, h, List.append_assoc, ← List.append_assoc]
    exact .mk hbefore (hitems.append_blank hafter)

theorem arrow_of_line {s : Step} (h : Line line s) :
    ∃ rest, trim line = s.direction.arrow ++ rest := by
  obtain ⟨hbefore, _⟩ := h
  exact ⟨_, trim_arrow_append _ hbefore _⟩

/-- A line is read as the step that it stands for, and any other text is no step. -/
theorem ofChars_eq_ok_iff {s : Step} : ofChars line = .ok s ↔ Line line s := by
  obtain ⟨direction, rest, htrim, hread⟩ | ⟨hnone, hread⟩ := ofChars_cases line
  · rw [hread, ofTokenText_eq_ok_iff, line_iff_of_arrow htrim]
  · rw [hread]
    apply iff_of_false (fun h => nomatch h)
    intro hline
    obtain ⟨rest, htrim⟩ := arrow_of_line hline
    exact hnone _ rest htrim

theorem ofChars_eq_invalidPattern_iff :
    ofChars line = .error .invalidPattern ↔
      (∀ direction rest, trim line ≠ Direction.arrow direction ++ rest) ∨
        ∃ direction rest, trim line = Direction.arrow direction ++ rest ∧ Blank rest := by
  obtain ⟨direction, rest, htrim, hread⟩ | ⟨hnone, hread⟩ := ofChars_cases line
  · rw [hread, ofTokenText_eq_error_iff]
    constructor
    · rintro (⟨hblank, _⟩ | ⟨_, _, he⟩)
      · exact .inr ⟨direction, rest, htrim, hblank⟩
      · cases he
    · rintro (hnone | ⟨direction', rest', htrim', hblank⟩)
      · exact absurd htrim (hnone direction rest)
      · obtain ⟨rfl, rfl⟩ := Direction.eq_of_arrow_append (htrim.symm.trans htrim')
        exact .inl ⟨hblank, rfl⟩
  · exact iff_of_true hread (.inl hnone)

theorem ofChars_eq_invalidToken_iff :
    ofChars line = .error .invalidToken ↔
      (∃ direction rest, trim line = Direction.arrow direction ++ rest ∧ ¬ Blank rest) ∧
        ∀ s, ¬ Line line s := by
  obtain ⟨direction, rest, htrim, hread⟩ | ⟨hnone, hread⟩ := ofChars_cases line
  · rw [hread, ofTokenText_eq_error_iff]
    constructor
    · rintro (⟨_, he⟩ | ⟨hblank, hnone, _⟩)
      · cases he
      · exact ⟨⟨direction, rest, htrim, hblank⟩,
          fun s hs => hnone s.tokens ((line_iff_of_arrow htrim).1 hs).2⟩
    · rintro ⟨⟨direction', rest', htrim', hblank⟩, hnone⟩
      obtain ⟨rfl, rfl⟩ := Direction.eq_of_arrow_append (htrim.symm.trans htrim')
      refine .inr ⟨hblank, fun ts hts => ?_, rfl⟩
      exact hnone ⟨direction, ts⟩ ((line_iff_of_arrow htrim).2 ⟨rfl, hts⟩)
  · rw [hread]
    apply iff_of_false (fun h => nomatch h)
    rintro ⟨⟨direction, rest, htrim, _⟩, _⟩
    exact hnone direction rest htrim

theorem error_of_ofChars {e : HandshakeError} (h : ofChars line = .error e) :
    e = .invalidPattern ∨ e = .invalidToken := by
  obtain ⟨direction, rest, _, hread⟩ | ⟨_, hread⟩ := ofChars_cases line
  · rw [hread, ofTokenText_eq_error_iff] at h
    exact h.imp And.right (fun h => h.2.2)
  · rw [hread] at h
    exact .inl (Except.error.inj h).symm

end Step

/-! ## Reading a pre-message -/

theorem parsePreMessageItem_eq_ok_iff {item : List Char} {t : Token} :
    parsePreMessageItem item = .ok t ↔ Item item t ∧ t = .send .static := by
  rw [item_iff, parsePreMessageItem_eq]
  constructor
  · intro h
    obtain ⟨read, hread, hin⟩ := bind_eq_ok h
    unfold Token.inPreMessage at hin
    split at hin
    · next hstatic =>
      cases hin
      exact ⟨hread, hstatic⟩
    · cases hin
  · rintro ⟨hread, rfl⟩
    rw [hread]
    rfl

theorem parsePreMessageItem_eq_error_iff {item : List Char} {e : HandshakeError} :
    parsePreMessageItem item = .error e ↔ Unfit item e := by
  rw [parsePreMessageItem_eq]
  constructor
  · intro h
    cases hread : Token.ofChars (trim item) with
    | ok t =>
      rw [hread] at h
      change t.inPreMessage = .error e at h
      unfold Token.inPreMessage at h
      split at h
      · cases h
      · next hother =>
        cases h
        exact .otherToken (item_iff.2 hread) hother
    | error e' =>
      rw [hread] at h
      cases h
      obtain ⟨rfl, hnone⟩ := error_of_item.1 hread
      exact .noToken hnone
  · intro h
    cases h with
    | otherToken hitem hother =>
      rw [item_iff.1 hitem]
      exact if_neg hother
    | noToken hnone =>
      rw [error_of_item.2 ⟨rfl, hnone⟩]
      rfl

theorem parsePreMessage_eq_ok_iff {text : List Char} {ts : List Token} :
    parsePreMessage text = .ok ts ↔
      Blank text ∧ ts = [] ∨ Items text ts ∧ ∀ t ∈ ts, t = .send .static := by
  have hnil : trim text = [] ↔ Blank text := trim_eq_nil_iff
  unfold parsePreMessage
  by_cases hblank : Blank text
  · rw [if_pos (hnil.2 hblank)]
    constructor
    · intro h
      cases h
      exact .inl ⟨hblank, rfl⟩
    · rintro (⟨_, rfl⟩ | ⟨hitems, _⟩)
      · rfl
      · exact absurd hblank hitems.not_blank
  · rw [if_neg (fun h => hblank (hnil.1 h)), mapM_eq_ok_iff]
    simp only [parsePreMessageItem_eq_ok_iff, hblank, false_and, false_or, items_iff,
      forall₂_and_right]

/-- A pre-message that is not read is refused for the first of its items that may not stand there. -/
theorem parsePreMessage_eq_error_iff {text : List Char} {e : HandshakeError} :
    parsePreMessage text = .error e ↔
      ¬ Blank text ∧ ∃ before item after, text.splitOn ',' = before ++ item :: after ∧
        (∀ other ∈ before, Item other (.send .static)) ∧ Unfit item e := by
  have hnil : trim text = [] ↔ Blank text := trim_eq_nil_iff
  unfold parsePreMessage
  by_cases hblank : Blank text
  · simp [hnil.2 hblank, hblank]
  · rw [if_neg (fun h => hblank (hnil.1 h)), mapM_eq_error_iff]
    simp only [parsePreMessageItem_eq_ok_iff, parsePreMessageItem_eq_error_iff, hblank,
      not_false_eq_true, true_and, exists_eq_right]

/-! ## Pattern text -/

/-- A text is read as the grammar says, be it as a line or as a pre-message. -/
structure ReadByGrammar (text : String) : Prop where
  line_iff : ∀ s, Step.parse text = .ok s ↔ Line text.toList s
  /-- Without an arrow at the front, or with nothing but white space behind it, a text is no line. -/
  line_invalidPattern_iff : Step.parse text = .error .invalidPattern ↔
    (∀ direction rest, trim text.toList ≠ Direction.arrow direction ++ rest) ∨
      ∃ direction rest, trim text.toList = Direction.arrow direction ++ rest ∧ Blank rest
  /-- All other texts that are no lines are refused for their tokens. -/
  line_invalidToken_iff : Step.parse text = .error .invalidToken ↔
    (∃ direction rest, trim text.toList = Direction.arrow direction ++ rest ∧ ¬ Blank rest) ∧
      ∀ s, ¬ Line text.toList s
  line_error : ∀ e, Step.parse text = .error e → e = .invalidPattern ∨ e = .invalidToken
  preMessage_iff : ∀ ts, parsePreMessage text.toList = .ok ts ↔
    Blank text.toList ∧ ts = [] ∨ Items text.toList ts ∧ ∀ t ∈ ts, t = .send .static
  /-- Of the items of a pre-message the first one decides that may not stand there. -/
  preMessage_error_iff : ∀ e, parsePreMessage text.toList = .error e ↔
    ¬ Blank text.toList ∧ ∃ before item after,
      text.toList.splitOn ',' = before ++ item :: after ∧
        (∀ other ∈ before, Item other (.send .static)) ∧ Unfit item e

theorem readByGrammar (text : String) : ReadByGrammar text where
  line_iff _ := Step.ofChars_eq_ok_iff
  line_invalidPattern_iff := Step.ofChars_eq_invalidPattern_iff
  line_invalidToken_iff := Step.ofChars_eq_invalidToken_iff
  line_error _ := Step.error_of_ofChars
  preMessage_iff _ := parsePreMessage_eq_ok_iff
  preMessage_error_iff _ := parsePreMessage_eq_error_iff

end DuplexHandshake
