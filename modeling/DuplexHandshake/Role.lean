/-!
# The two sides of a handshake
-/

namespace DuplexHandshake

/-- Which side of the handshake a party plays. -/
inductive Role where
  | initiator
  | responder
  deriving DecidableEq

namespace Role

def other : Role → Role
  | initiator => responder
  | responder => initiator

/-- The one of two things that belongs to a side. -/
def select {α : Type} (ofInitiator ofResponder : α) : Role → α
  | initiator => ofInitiator
  | responder => ofResponder

@[simp]
theorem other_other (r : Role) : r.other.other = r := by
  cases r <;> rfl

theorem other_ne (r : Role) : r.other ≠ r := by
  cases r <;> exact fun h => nomatch h

theorem other_eq_of_ne {r s : Role} (h : r ≠ s) : r.other = s := by
  cases r <;> cases s <;> first | rfl | exact absurd rfl h

theorem select_other {α : Type} (x y : α) (r : Role) : r.other.select x y = r.select y x := by
  cases r <;> rfl

end Role

end DuplexHandshake
