import DuplexHandshake.Text.Blank
import Mathlib.Data.List.DropRight

/-!
# White space at the ends of a text

What trimming leaves alone, and what it does to the parts of a text that is split.
-/

namespace DuplexHandshake

variable {text : List Char}

theorem isBlank_space : isBlank ' ' = true := by
  decide

theorem trim_cons_of_blank {c : Char} (h : isBlank c = true) : trim (c :: text) = trim text := by
  rw [trim, trim, List.dropWhile_cons_of_pos h]

/-- Only a text of nothing but white space is trimmed away. -/
theorem trim_eq_nil_iff : trim text = [] ↔ ∀ c ∈ text, isBlank c = true := by
  rw [trim, List.reverse_eq_nil_iff, List.dropWhile_eq_nil_iff]
  simp only [List.mem_reverse]
  rw [← List.dropWhile_eq_nil_iff, ← List.dropWhile_eq_nil_iff, List.dropWhile_idempotent]

theorem trim_ne_nil {c : Char} (hmem : c ∈ text) (h : isBlank c = false) : trim text ≠ [] := by
  intro hnil
  have hblank := trim_eq_nil_iff.1 hnil c hmem
  rw [h] at hblank
  cases hblank

/-- A text without white space at its ends is left as it is. -/
theorem trim_of_ends {first last : Char} (hfirst : isBlank first = false)
    (hlast : isBlank last = false) (inner : List Char) :
    trim (first :: (inner ++ [last])) = first :: (inner ++ [last]) := by
  simp [trim, hfirst, hlast]

/-- Nothing but white space. -/
def Blank (text : List Char) : Prop :=
  ∀ c ∈ text, isBlank c = true

/-- Trimming takes white space away at both ends, and nothing else. -/
theorem exists_blank_trim (text : List Char) :
    ∃ before after, Blank before ∧ Blank after ∧ text = before ++ (trim text ++ after) := by
  refine ⟨text.takeWhile isBlank, (text.dropWhile isBlank).rtakeWhile isBlank, ?_, ?_, ?_⟩
  · exact fun c hc => List.mem_takeWhile_imp hc
  · exact fun c hc => List.mem_rtakeWhile_imp hc
  · have htrim : trim text = (text.dropWhile isBlank).rdropWhile isBlank := rfl
    rw [htrim, List.rdropWhile_append_rtakeWhile, List.takeWhile_append_dropWhile]

theorem trim_blank_append {before : List Char} (h : Blank before) (text : List Char) :
    trim (before ++ text) = trim text := by
  induction before with
  | nil => rfl
  | cons c before ih =>
    rw [List.cons_append, trim_cons_of_blank (h c List.mem_cons_self)]
    exact ih fun d hd => h d (List.mem_cons_of_mem c hd)

/-- At the end of a text nothing is taken away in front of a character that is not white space. -/
theorem rdropWhile_append_cons {c : Char} (hc : isBlank c = false) (front back : List Char) :
    (front ++ c :: back).rdropWhile isBlank = front ++ c :: back.rdropWhile isBlank := by
  have hreverse : (front ++ c :: back).reverse = back.reverse ++ c :: front.reverse := by simp
  have hstop : (c :: front.reverse).dropWhile isBlank = c :: front.reverse := by simp [hc]
  rw [List.rdropWhile, hreverse, List.dropWhile_append, hstop, List.rdropWhile]
  split
  · next hempty => simp [List.isEmpty_iff.1 hempty]
  · simp

theorem rdropWhile_append_of_blank {after : List Char} (h : Blank after) (text : List Char) :
    (text ++ after).rdropWhile isBlank = text.rdropWhile isBlank := by
  rw [List.rdropWhile, List.reverse_append, List.dropWhile_append_of_pos, List.rdropWhile]
  exact fun c hc => h c (List.mem_reverse.1 hc)

theorem trim_cons {c : Char} (hc : isBlank c = false) (text : List Char) :
    trim (c :: text) = c :: text.rdropWhile isBlank := by
  rw [trim, List.dropWhile_cons_of_neg (by simpa using hc)]
  exact rdropWhile_append_cons hc [] text

theorem trim_append_blank {after : List Char} (h : Blank after) (text : List Char) :
    trim (text ++ after) = trim text := by
  induction text with
  | nil => exact trim_eq_nil_iff.2 h
  | cons c text ih =>
    rw [List.cons_append]
    by_cases hc : isBlank c = true
    · rw [trim_cons_of_blank hc, trim_cons_of_blank hc, ih]
    · rw [Bool.not_eq_true] at hc
      rw [trim_cons hc, trim_cons hc, rdropWhile_append_of_blank h]

theorem trim_rdropWhile (text : List Char) : trim (text.rdropWhile isBlank) = trim text := by
  have hblank : Blank (text.rtakeWhile isBlank) := fun c hc => List.mem_rtakeWhile_imp hc
  rw [← trim_append_blank hblank, List.rdropWhile_append_rtakeWhile]

/-- White space in front of a text does not change what its trimmed parts are. -/
theorem map_trim_splitOn_cons {c separator : Char} (hblank : isBlank c = true)
    (hne : c ≠ separator) :
    ((c :: text).splitOn separator).map trim = (text.splitOn separator).map trim := by
  rw [List.splitOn, List.splitOnP_cons_eq_if_modifyHead, if_neg (by simpa using hne), List.splitOn]
  cases text.splitOnP (· == separator) with
  | nil => rfl
  | cons part parts =>
    rw [List.modifyHead_cons, List.map_cons, List.map_cons, trim_cons_of_blank hblank]

end DuplexHandshake
