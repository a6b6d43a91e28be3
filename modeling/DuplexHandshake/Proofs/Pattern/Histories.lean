import DuplexHandshake.Proofs.Pattern.Registration
import DuplexHandshake.Proofs.Text.ByteOrder
import Mathlib.Data.List.Forall2
import Mathlib.Logic.Function.Basic

/-!
# Registries that are copied

A registry may be copied at any time, and from then on the copy and the original go their own ways. What a
registry knows is told by its past: the pattern it came with, if any, those that its original had been handed
up to the copy, and those that were handed to itself. Of each name it knows the first, and nothing that is
done to another registry changes that.
-/

namespace DuplexHandshake.Registry

/-- The registry that was handed these patterns, beginning with none. -/
def ofPast (past : List Pattern) : Registry :=
  empty.addAll past

/-- Something done to registries, which are numbered in the order in which they came about. -/
inductive Change where
  /-- A new registry, either empty or with the pattern that registries can come with. -/
  | create (withStandard : Bool)
  | hand (number : Nat) (pattern : Pattern)
  | copy (number : Nat)

namespace Change

/-- The registries after a change. Where there is none of the number, there is nothing to change. -/
def perform (registries : List Registry) : Change → List Registry
  | create withStandard => registries ++ [if withStandard then standard else empty]
  | hand number pattern => registries.modify number (·.add pattern)
  | copy number => registries ++ registries[number]?.toList

/-- The registries after some changes; before them there was none. -/
def performAll (changes : List Change) : List Registry :=
  changes.foldl perform []

/-- The pasts of the registries after a change, whatever became of what they were handed. -/
def record (pasts : List (List Pattern)) : Change → List (List Pattern)
  | create withStandard => pasts ++ [if withStandard then [.xx] else []]
  | hand number pattern => pasts.modify number (· ++ [pattern])
  | copy number => pasts ++ pasts[number]?.toList

/-- The pasts of all registries. -/
def recordAll (changes : List Change) : List (List Pattern) :=
  changes.foldl record []

/-- What changes hand to the registry of that number. -/
def handed (number : Nat) (changes : List Change) : List Pattern :=
  changes.filterMap fun
    | hand n pattern => if n = number then some pattern else none
    | _ => none

end Change

/-! ## One registry and its past -/

/-- What a registry knows, if this is its past. -/
structure Recalls (r : Registry) (past : List Pattern) : Prop where
  /-- Under a name stands the first pattern of that name. -/
  get_eq_ok_iff : ∀ name p, r.get name = .ok p ↔
    p.name = name ∧ ∃ before after, past = before ++ p :: after ∧ ∀ q ∈ before, q.name ≠ name
  get_eq_error_iff : ∀ name e, r.get name = .error e ↔
    e = .unknownPattern ∧ ∀ p ∈ past, p.name ≠ name
  /-- A pattern is refused exactly if its name is taken. -/
  insert_eq_error_iff : ∀ p e, r.insert p = .error e ↔
    e = .duplicatePattern ∧ ∃ q, r.get p.name = .ok q
  /-- One that is taken in is found under its own name, and nothing else is found anew. -/
  get_of_insert : ∀ p grown events, r.insert p = .ok (grown, events) →
    grown.get = Function.update r.get p.name (.ok p)
  mem_names_iff : ∀ name, name ∈ r.names ↔ ∃ p, r.get name = .ok p
  /-- The names stand in the order of their bytes, each of them once. -/
  names_ordered : r.names.Pairwise fun a b => (Bytes.ofText a).Before (Bytes.ofText b)

variable {r : Registry} {name : String}

theorem get_eq_error_iff_find? {e : HandshakeError} :
    r.get name = .error e ↔ e = .unknownPattern ∧ r.find? name = none := by
  unfold get
  cases r.find? name with
  | none => rw [Except.error.injEq, eq_comm, and_iff_left rfl]
  | some q => exact iff_of_false (fun h => nomatch h) (fun h => nomatch h.2)

theorem exists_get_eq_ok_iff :
    (∃ p, r.get name = .ok p) ↔ name ∈ r.patterns.map Pattern.name := by
  rw [← find?_isSome_iff, Option.isSome_iff_exists]
  exact exists_congr fun p => get_eq_ok_iff_find?

theorem insert_eq_error_iff_get {p : Pattern} {e : HandshakeError} :
    r.insert p = .error e ↔ e = .duplicatePattern ∧ ∃ q, r.get p.name = .ok q := by
  rw [exists_get_eq_ok_iff]
  unfold insert
  split
  · next htaken => rw [Except.error.injEq, eq_comm, and_iff_left htaken]
  · next hfree =>
    constructor
    · intro h
      cases h
    · rintro ⟨-, htaken⟩
      exact absurd htaken hfree

theorem add_of_insert {p : Pattern} {grown : Registry} {events : List Event}
    (h : r.insert p = .ok (grown, events)) : r.add p = grown := by
  rw [add, h]

theorem add_of_insert_error {p : Pattern} {e : HandshakeError} (h : r.insert p = .error e) :
    r.add p = r := by
  rw [add, h]

theorem get_of_insert_ok {p : Pattern} {grown : Registry} {events : List Event}
    (h : r.insert p = .ok (grown, events)) : grown.get = Function.update r.get p.name (.ok p) := by
  have hfree : r.find? p.name = none := by
    rw [← Option.not_isSome_iff_eq_none, find?_isSome_iff]
    intro htaken
    have herror := insert_eq_error_iff_get.2 ⟨rfl, exists_get_eq_ok_iff.2 htaken⟩
    rw [h] at herror
    cases herror
  funext name
  have hfind := r.find?_add p name
  rw [add_of_insert h, List.find?_append] at hfind
  by_cases hname : name = p.name
  · subst hname
    rw [Function.update_self, get_eq_ok_iff_find?, hfind, ← find?, hfree]
    simp
  · have hother : [p].find? (·.name = name) = none := by simp [Ne.symm hname]
    rw [Function.update_of_ne hname, get, get, hfind, hother, Option.or_none]
    rfl

theorem names_pairwise (r : Registry) :
    r.names.Pairwise fun a b => (Bytes.ofText a).Before (Bytes.ofText b) := by
  have hsorted : r.names.Pairwise fun a b => decide (a ≤ b) := by
    apply List.pairwise_mergeSort
    · intro a b c hab hbc
      exact decide_eq_true (String.le_trans (of_decide_eq_true hab) (of_decide_eq_true hbc))
    · intro a b
      rw [Bool.or_eq_true, decide_eq_true_eq, decide_eq_true_eq]
      exact String.le_total a b
  have hnodup : r.names.Nodup := (List.mergeSort_perm _ _).nodup_iff.2 r.names_nodup
  refine (hsorted.and hnodup).imp ?_
  rintro a b ⟨hle, hne⟩
  apply Bytes.before_ofText
  -- Of two names in order the second is not before the first, unless they are one name.
  apply Decidable.byContradiction
  intro hlt
  exact hne (String.le_antisymm (of_decide_eq_true hle) hlt)

theorem find?_ofPast (past : List Pattern) (name : String) :
    (ofPast past).find? name = past.find? (·.name = name) :=
  empty.find?_addAll past name

/-- A registry recalls its past. -/
theorem recalls_ofPast (past : List Pattern) : (ofPast past).Recalls past where
  get_eq_ok_iff name p := by
    rw [get_eq_ok_iff_find?, find?_ofPast, List.find?_eq_some_iff_append]
    simp
  get_eq_error_iff name e := by
    rw [get_eq_error_iff_find?, find?_ofPast, List.find?_eq_none]
    simp
  insert_eq_error_iff _ _ := insert_eq_error_iff_get
  get_of_insert _ _ _ := get_of_insert_ok
  mem_names_iff name := by rw [exists_get_eq_ok_iff, names, List.mem_mergeSort]
  names_ordered := names_pairwise _

/-! ## All registries -/

theorem add_ofPast (past : List Pattern) (p : Pattern) : (ofPast past).add p = ofPast (past ++ [p]) := by
  rw [ofPast, ofPast, addAll, addAll, List.foldl_concat]

/-- A new registry is what its past makes of it, although the pattern it may come with was not handed to
it. -/
theorem create_eq_ofPast (withStandard : Bool) :
    (if withStandard then standard else empty) = ofPast (if withStandard then [.xx] else []) := by
  cases withStandard <;> rfl

namespace Change

theorem modify_map {α β : Type} {f : α → β} {g : β → β} {h : α → α} (hcommutes : ∀ a, g (f a) = f (h a))
    (l : List α) (n : Nat) : (l.map f).modify n g = (l.modify n h).map f := by
  apply List.ext_getElem?
  intro i
  rw [List.getElem?_modify, List.getElem?_map, List.getElem?_map, List.getElem?_modify]
  cases l[i]? with
  | none => rfl
  | some a =>
    by_cases hi : n = i
    · simp [hi, hcommutes]
    · simp [hi]

theorem modify_of_getElem? {α : Type} {l : List α} {n : Nat} {a : α} (h : l[n]? = some a) (f : α → α) :
    l.modify n f = l.set n (f a) := by
  rw [List.modify_eq_set_getElem?, h]
  rfl

/-- A change makes of registries what it makes of their pasts. -/
theorem perform_map (pasts : List (List Pattern)) (change : Change) :
    change.perform (pasts.map ofPast) = (change.record pasts).map ofPast := by
  cases change with
  | create withStandard =>
    rw [perform, record, List.map_append, create_eq_ofPast]
    rfl
  | hand number pattern => exact modify_map (fun past => add_ofPast past pattern) pasts number
  | copy number => rw [perform, record, List.map_append, List.getElem?_map, Option.toList_map]

/-- Every registry is what its past makes of it. -/
theorem performAll_eq (changes : List Change) : performAll changes = (recordAll changes).map ofPast := by
  rw [performAll, recordAll, ← List.foldl_hom (List.map ofPast) perform_map, List.map_nil]

theorem performAll_concat (changes : List Change) (change : Change) :
    performAll (changes ++ [change]) = change.perform (performAll changes) := by
  rw [performAll, List.foldl_concat]
  rfl

/-- A change leaves every registry as it was but for what it hands to it. -/
theorem getElem?_perform {registries : List Registry} {number : Nat} {r : Registry}
    (h : registries[number]? = some r) (change : Change) :
    (change.perform registries)[number]? = some (r.addAll (handed number [change])) := by
  have hnumber : number < registries.length := (List.getElem?_eq_some_iff.1 h).1
  cases change with
  | create withStandard =>
    rw [perform, List.getElem?_append_left hnumber, h]
    rfl
  | hand n pattern =>
    rw [perform, List.getElem?_modify, h, handed]
    by_cases hn : n = number
    · simp [hn, addAll]
    · simp [hn, addAll]
  | copy n =>
    rw [perform, List.getElem?_append_left hnumber, h]
    rfl

theorem handed_cons (number : Nat) (change : Change) (later : List Change) :
    handed number (change :: later) = handed number [change] ++ handed number later := by
  rw [← List.singleton_append, handed, List.filterMap_append]
  rfl

theorem getElem?_performAll_append {changes : List Change} {number : Nat} {r : Registry}
    (h : (performAll changes)[number]? = some r) (later : List Change) :
    (performAll (changes ++ later))[number]? = some (r.addAll (handed number later)) := by
  induction later generalizing changes r with
  | nil =>
    rw [List.append_nil]
    exact h
  | cons change later ih =>
    have hone := getElem?_perform h change
    rw [← performAll_concat] at hone
    have hlater := ih hone
    rw [List.append_assoc, List.singleton_append] at hlater
    rw [hlater, handed_cons number change later, addAll, addAll, addAll, List.foldl_append]

end Change

/-- What is true of registries after some changes. -/
structure Remembered (changes : List Change) : Prop where
  /-- Every registry recalls its own past, that of the original included if it is a copy. -/
  recalls : List.Forall₂ Recalls (Change.performAll changes) (Change.recordAll changes)
  /-- A registry that refuses a pattern stays as it was, and so do all others. -/
  refused : ∀ (number : Nat) r p e, (Change.performAll changes)[number]? = some r →
    r.insert p = .error e → Change.performAll (changes ++ [.hand number p]) = Change.performAll changes
  taken : ∀ (number : Nat) r p grown events, (Change.performAll changes)[number]? = some r →
    r.insert p = .ok (grown, events) →
      Change.performAll (changes ++ [.hand number p]) = (Change.performAll changes).set number grown
  copied : ∀ (number : Nat) r, (Change.performAll changes)[number]? = some r →
    Change.performAll (changes ++ [.copy number]) = Change.performAll changes ++ [r]
  /-- What becomes of a registry depends on what it is handed, and on nothing that is done to its copies, its
  original or any other. -/
  apart : ∀ (number : Nat) r later, (Change.performAll changes)[number]? = some r →
    (Change.performAll (changes ++ later))[number]? = some (r.addAll (Change.handed number later))

/-- Registries remember what they were handed, however they were copied in between. -/
theorem recalls_after_changes (changes : List Change) : Remembered changes where
  recalls := by
    rw [Change.performAll_eq, List.forall₂_map_left_iff, List.forall₂_same]
    exact fun past _ => recalls_ofPast past
  refused number r p e h hrefused := by
    rw [Change.performAll_concat, Change.perform, Change.modify_of_getElem? h, add_of_insert_error hrefused]
    obtain ⟨hnumber, rfl⟩ := List.getElem?_eq_some_iff.1 h
    exact List.set_getElem_self hnumber
  taken number r p grown events h htaken := by
    rw [Change.performAll_concat, Change.perform, Change.modify_of_getElem? h, add_of_insert htaken]
  copied number r h := by rw [Change.performAll_concat, Change.perform, h, Option.toList_some]
  apart number r later h := Change.getElem?_performAll_append h later

end DuplexHandshake.Registry
