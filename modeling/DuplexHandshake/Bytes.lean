/-!
# Byte strings

Messages, payloads, labels and tags are lists of bytes. Here are the few operations that the rest of
the library shares: the bytes of a text, the hexadecimal form, and cutting a segment of known length
off the front.
-/

namespace DuplexHandshake

abbrev Bytes := List UInt8

namespace Bytes

def ofText (text : String) : Bytes :=
  text.toUTF8.data.toList

/-- The two lower-case hexadecimal digits of a byte, the high one first. -/
def hexDigits (b : UInt8) : List Char :=
  [Nat.digitChar (b.toNat / 16), Nat.digitChar (b.toNat % 16)]

def hex (data : Bytes) : String :=
  String.ofList (data.flatMap hexDigits)

/-- Cuts exactly `n` bytes off the front; `none` if there are fewer. -/
def split? (n : Nat) (data : Bytes) : Option (Bytes × Bytes) :=
  if n ≤ data.length then some (data.splitAt n) else none

theorem split?_append (front back : Bytes) :
    split? front.length (front ++ back) = some (front, back) := by
  simp [split?]

theorem split?_eq_none_iff {n : Nat} {data : Bytes} : split? n data = none ↔ data.length < n := by
  simp [split?]

theorem append_eq_of_split? {n : Nat} {data front back : Bytes}
    (h : split? n data = some (front, back)) : front ++ back = data ∧ front.length = n := by
  unfold split? at h
  split at h
  · next hn =>
    simp only [List.splitAt_eq, Option.some.injEq, Prod.mk.injEq] at h
    obtain ⟨rfl, rfl⟩ := h
    exact ⟨List.take_append_drop n data, by simp [Nat.min_eq_left hn]⟩
  · cases h

end Bytes

end DuplexHandshake
