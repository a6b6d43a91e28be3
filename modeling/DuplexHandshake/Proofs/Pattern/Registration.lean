import DuplexHandshake.Pattern.Registry

/-!
# Registries and how they came about

A registry is built by handing it patterns. What can be found in it is told by the list of these patterns
alone: the one that is found under a name is the first of that name.
-/

namespace DuplexHandshake.Registry

/-- The registry after a pattern was handed to it. A name that was taken leaves it as it was. -/
def add (r : Registry) (p : Pattern) : Registry :=
  match r.insert p with
  | .ok (grown, _) => grown
  | .error _ => r

/-- The registry after these patterns were handed to it, one by one and whatever came of each. -/
def addAll (r : Registry) (ps : List Pattern) : Registry :=
  ps.foldl add r

theorem patterns_add (r : Registry) (p : Pattern) :
    (r.add p).patterns =
      if p.name ∈ r.patterns.map Pattern.name then r.patterns else r.patterns ++ [p] := by
  unfold add insert
  split
  · next grown events h =>
    split at h
    · cases h
    · next hfree =>
      cases h
      rw [if_neg hfree]
  · next h =>
    split at h
    · next htaken => rw [if_pos htaken]
    · cases h

theorem get_eq_ok_iff_find? {r : Registry} {name : String} {p : Pattern} :
    r.get name = .ok p ↔ r.find? name = some p := by
  unfold get
  cases r.find? name with
  | none => exact iff_of_false (fun h => nomatch h) (fun h => nomatch h)
  | some q => rw [Except.ok.injEq, Option.some.injEq]

theorem find?_isSome_iff {r : Registry} {name : String} :
    (r.find? name).isSome ↔ name ∈ r.patterns.map Pattern.name := by
  rw [find?, List.find?_isSome, List.mem_map]
  simp only [decide_eq_true_eq]

/-- A pattern that comes later is found where none of its name was found before, and nowhere else. -/
theorem find?_add (r : Registry) (p : Pattern) (name : String) :
    (r.add p).find? name = (r.patterns ++ [p]).find? (·.name = name) := by
  rw [find?, patterns_add]
  split
  · next htaken =>
    rw [List.find?_append]
    cases hfound : r.patterns.find? (·.name = name) with
    | some q => rfl
    | none =>
      -- Nothing of that name is there, so it is not the name that was taken.
      have hname : p.name ≠ name := by
        rintro rfl
        have hsome := find?_isSome_iff.2 htaken
        rw [find?, hfound] at hsome
        cases hsome
      simp [hname]
  · rfl

theorem find?_addAll (r : Registry) (ps : List Pattern) (name : String) :
    (r.addAll ps).find? name = (r.patterns ++ ps).find? (·.name = name) := by
  induction ps generalizing r with
  | nil => rw [List.append_nil]; rfl
  | cons p ps ih =>
    have hone := r.find?_add p name
    -- Whether the first pattern was taken in or not, looking for it gives what the list gives.
    calc ((r.add p).addAll ps).find? name
        = ((r.add p).patterns ++ ps).find? (·.name = name) := ih (r.add p)
      _ = ((r.patterns ++ [p]) ++ ps).find? (·.name = name) := by
          rw [List.find?_append, List.find?_append, ← hone, find?]
      _ = (r.patterns ++ p :: ps).find? (·.name = name) := by
          rw [List.append_assoc, List.singleton_append]

/-- What is found under a name has that name. -/
theorem name_of_find? {r : Registry} {name : String} {p : Pattern} (h : r.find? name = some p) :
    p.name = name := by
  have htrue := List.find?_some h
  exact of_decide_eq_true htrue

end DuplexHandshake.Registry
