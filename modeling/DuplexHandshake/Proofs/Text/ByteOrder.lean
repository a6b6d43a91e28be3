import DuplexHandshake.Bytes

/-!
# The order of texts and of their bytes

Texts are put in order by their code points. Whoever sees only the bytes of their UTF-8 form finds the
same order: the longer a code point is written the greater is its first byte, and what is written at one
length is written digit by digit, the most significant first.
-/

namespace DuplexHandshake.Bytes

/-- One byte string comes before another: at the first difference it has the smaller byte, or it ends
there. -/
def Before (a b : Bytes) : Prop :=
  List.Lex (· < ·) a b

theorem before_append (front : Bytes) {a b : Bytes} (h : Before a b) :
    Before (front ++ a) (front ++ b) := by
  induction front with
  | nil => exact h
  | cons x front ih => exact .cons ih

/-- Where the first byte does not decide, the bytes behind it do. -/
theorem before_cons {x y : Nat} (hx : x < 256) (hy : y < 256) (hle : x ≤ y) {a b : Bytes}
    (h : x = y → Before a b) : Before (UInt8.ofNat x :: a) (UInt8.ofNat y :: b) := by
  obtain hlt | rfl := Nat.lt_or_eq_of_le hle
  · apply List.Lex.rel
    rw [UInt8.lt_iff_toNat_lt, UInt8.toNat_ofNat_of_lt' hx, UInt8.toNat_ofNat_of_lt' hy]
    exact hlt
  · exact .cons (h rfl)

/-- The smaller of two code points is written first, whatever follows each of them. -/
theorem before_utf8EncodeChar {c d : Char} (h : c < d) (a b : Bytes) :
    Before (String.utf8EncodeChar c ++ a) (String.utf8EncodeChar d ++ b) := by
  have hlt : c.val.toNat < d.val.toNat := h
  have hvalid : d.val.toNat.isValidChar := d.valid
  unfold Nat.isValidChar at hvalid
  unfold String.utf8EncodeChar
  dsimp only
  generalize c.val.toNat = v at hlt ⊢
  generalize d.val.toNat = w at hlt hvalid ⊢
  -- One case for every two lengths, of which the second is not the smaller.
  repeat' split
  all_goals
    -- While the bytes agree so do the digits so far; they cannot agree to the end.
    repeat refine before_cons (by omega) (by omega) (by omega) fun _ => ?_
    omega

theorem before_flatMap_utf8EncodeChar {l m : List Char} (h : l < m) :
    Before (l.flatMap String.utf8EncodeChar) (m.flatMap String.utf8EncodeChar) := by
  induction h with
  | @nil d rest =>
    rw [List.flatMap_nil, List.flatMap_cons]
    cases hd : String.utf8EncodeChar d with
    | nil => exact absurd hd String.utf8EncodeChar_ne_nil
    | cons x bytes => exact .nil
  | cons _ ih => exact before_append _ ih
  | rel hlt => exact before_utf8EncodeChar hlt _ _

theorem ofText_eq_flatMap (text : String) :
    ofText text = text.toList.flatMap String.utf8EncodeChar := by
  rw [ofText, String.toUTF8_eq_toByteArray, ← String.utf8Encode_toList, List.utf8Encode,
    List.data_toByteArray]

/-- Texts in order have their bytes in order. -/
theorem before_ofText {a b : String} (h : a.toList < b.toList) : Before (ofText a) (ofText b) := by
  rw [ofText_eq_flatMap, ofText_eq_flatMap]
  exact before_flatMap_utf8EncodeChar h

end DuplexHandshake.Bytes
