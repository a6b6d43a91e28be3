import DuplexHandshake.Event
import DuplexHandshake.Pattern.Basic

/-!
# The registry of patterns

A handshake is started by the name of its pattern. The registry holds the patterns in the order of
their arrival, no two under one name: the first to arrive keeps the name.
-/

namespace DuplexHandshake

/-- The patterns that handshakes can be started for. -/
structure Registry where
  patterns : List Pattern
  names_nodup : (patterns.map Pattern.name).Nodup

namespace Registry

def empty : Registry where
  patterns := []
  names_nodup := List.nodup_nil

def standard : Registry where
  patterns := [.xx]
  names_nodup := by simp

def find? (r : Registry) (name : String) : Option Pattern :=
  r.patterns.find? (·.name = name)

def get (r : Registry) (name : String) : Except HandshakeError Pattern :=
  match r.find? name with
  | some p => .ok p
  | none => .error .unknownPattern

theorem names_nodup_append {patterns : List Pattern} {p : Pattern}
    (nodup : (patterns.map Pattern.name).Nodup) (fresh : p.name ∉ patterns.map Pattern.name) :
    ((patterns ++ [p]).map Pattern.name).Nodup := by
  rw [List.map_append, List.nodup_append]
  refine ⟨nodup, by simp, ?_⟩
  intro a ha b hb hab
  simp only [List.map_cons, List.map_nil, List.mem_singleton] at hb
  exact fresh (hb ▸ hab ▸ ha)

/-- Adds a pattern under its own name, unless the name is taken. -/
def insert (r : Registry) (p : Pattern) : Except HandshakeError (Registry × List Event) :=
  if h : p.name ∈ r.patterns.map Pattern.name then .error .duplicatePattern
  -- At the end, so that the pattern found under a name is the one that came first.
  else .ok (⟨r.patterns ++ [p], names_nodup_append r.names_nodup h⟩, [.registered p.name])

/-- The names of all patterns, in the order of their code points. -/
def names (r : Registry) : List String :=
  (r.patterns.map Pattern.name).mergeSort (· ≤ ·)

end Registry

end DuplexHandshake
