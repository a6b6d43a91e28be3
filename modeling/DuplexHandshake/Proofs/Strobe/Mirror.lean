import DuplexHandshake.Strobe.Duplex

/-!
# Two duplexes that face each other

The two sides of a conversation keep one sponge between them: equal blocks, equal positions, and
marks of direction that are opposite as soon as there are any. Here is what keeps it so. An
operation and its answer on the other side are announced by the same flags; plain data that goes in
as a sum leaves what enciphered data leaves that takes its place; and a tag is accepted exactly if
it is the one that would have been drawn.
-/

namespace DuplexHandshake.Strobe

/-! ## Operations and their answers -/

/-- What the other side does while one side does this. -/
def Operation.answer : Operation → Operation
  | .sendClear => .receiveClear
  | .receiveClear => .sendClear
  | .sendEncrypted => .receiveEncrypted
  | .receiveEncrypted => .sendEncrypted
  | .sendMac => .receiveMac
  | .receiveMac => .sendMac
  | op => op

/-- The marks of direction of two sides: none yet, or opposite ones. -/
inductive Facing : Option Bool → Option Bool → Prop where
  | unset : Facing none none
  | opposite (received : Bool) : Facing (some received) (some !received)

theorem Facing.symm {a b : Option Bool} (h : Facing a b) : Facing b a := by
  cases h with
  | unset => exact .unset
  | opposite received =>
    have hr : Facing (some !received) (some !!received) := .opposite !received
    rwa [Bool.not_not] at hr

namespace Duplex

variable {permute : Block → Block} {a b : Duplex permute}

/-- Both sides announce an operation and its answer by the same flags, and face each other after. -/
theorem orient_answer {x y : Option Bool} (h : Facing x y) (op : Operation) :
    (orient x op.flags).1 = (orient y op.answer.flags).1 ∧
      Facing (orient x op.flags).2 (orient y op.answer.flags).2 := by
  -- Of the marks only those of a transport operation change, and only from unset to opposite.
  cases h with
  | unset => cases op <;> exact ⟨rfl, by first | exact .unset | exact .opposite _⟩
  | opposite received => cases received <;> cases op <;> exact ⟨rfl, .opposite _⟩

/-! ## One sponge on two sides -/

/-- Two sides that share one sponge and face each other. -/
structure Mirrors (a b : Duplex permute) : Prop where
  block : a.block = b.block
  pos : a.pos = b.pos
  opened : a.opened = b.opened
  receiver : Facing a.receiver b.receiver

namespace Mirrors

/-- A duplex that has carried nothing between the sides serves either of them. -/
theorem refl_of_unset (h : a.receiver = none) : Mirrors a a := by
  refine ⟨rfl, rfl, rfl, ?_⟩
  rw [h]
  exact .unset

theorem symm (h : Mirrors a b) : Mirrors b a :=
  ⟨h.block.symm, h.pos.symm, h.opened.symm, h.receiver.symm⟩

theorem nextBlock (h : Mirrors a b) (p : Nat) (hp : p ≤ rate) :
    Mirrors (a.nextBlock p hp) (b.nextBlock p hp) := by
  refine ⟨?_, rfl, rfl, h.receiver⟩
  simp only [Duplex.nextBlock, h.block, h.opened]

/-- A byte comes out alike on both sides, and leaves them as they were to each other. -/
theorem step (h : Mirrors a b) (keep : Keep) (input : UInt8) :
    (a.step keep input).1 = (b.step keep input).1 ∧
      Mirrors (a.step keep input).2 (b.step keep input).2 := by
  -- The two differ in their marks of direction alone, which a byte does not look at.
  rcases a with ⟨block, pos, opened, ra⟩
  rcases b with ⟨_, _, _, rb⟩
  rcases h with ⟨rfl, rfl, rfl, hr⟩
  unfold Duplex.step
  by_cases hp : pos.val + 1 < rate
  · simp only [hp, ↓reduceDIte, true_and]
    exact ⟨rfl, rfl, rfl, hr⟩
  · simp only [hp, ↓reduceDIte, true_and]
    apply nextBlock
    exact ⟨rfl, rfl, rfl, hr⟩

theorem run (h : Mirrors a b) (keep : Keep) (data : Bytes) :
    (a.run keep data).1 = (b.run keep data).1 ∧
      Mirrors (a.run keep data).2 (b.run keep data).2 := by
  induction data generalizing a b with
  | nil => exact ⟨rfl, h⟩
  | cons input rest ih =>
    have hstep := h.step keep input
    have hrest := ih hstep.2
    rw [run_cons, run_cons, hstep.1, hrest.1]
    exact ⟨rfl, hrest.2⟩

theorem frame (h : Mirrors a b) (op : Operation) :
    Mirrors (a.frame op) (b.frame op.answer) := by
  have horient := orient_answer h.receiver op
  unfold Duplex.frame
  simp only [h.opened, h.pos, horient.1]
  refine (Mirrors.run ?_ .sum _).2
  exact ⟨h.block, rfl, rfl, horient.2⟩

theorem announce (h : Mirrors a b) (op : Operation) :
    Mirrors (a.announce op) (b.announce op.answer) := by
  have hframe := h.frame op
  have hcipher : op.answer.flags.cipher = op.flags.cipher := by cases op <;> rfl
  unfold Duplex.announce
  simp only [hcipher, ← hframe.pos]
  by_cases hopens : op.flags.cipher ∧ (a.frame op).pos ≠ 0
  · rw [if_pos hopens, if_pos hopens]
    exact hframe.nextBlock _ _
  · rw [if_neg hopens, if_neg hopens]
    exact hframe

theorem addData (h : Mirrors a b) (op : Operation) (data : Bytes) :
    (a.addData op data).1 = (b.addData op.answer data).1 ∧
      Mirrors (a.addData op data).2 (b.addData op.answer data).2 :=
  (h.announce op).run .sum data

theorem putData (h : Mirrors a b) (op : Operation) (data : Bytes) :
    (a.putData op data).1 = (b.putData op.answer data).1 ∧
      Mirrors (a.putData op data).2 (b.putData op.answer data).2 :=
  (h.announce op).run .input data

end Mirrors

/-! ## Sums and replacements -/

@[simp]
theorem length_run (keep : Keep) (d : Duplex permute) (data : Bytes) :
    (d.run keep data).1.length = data.length := by
  induction data generalizing d with
  | nil => rfl
  | cons input rest ih => rw [run_cons, List.length_cons, ih, List.length_cons]

/-- What comes out of a byte, going back in under the other rule, brings the byte back. -/
theorem step_step (d : Duplex permute) (input : UInt8) :
    d.step .input (d.step .sum input).1 = (input, (d.step .sum input).2) ∧
      d.step .sum (d.step .input input).1 = (input, (d.step .input input).2) := by
  have hsum : input ^^^ d.block[d.pos] ^^^ d.block[d.pos] = input := by
    rw [UInt8.xor_assoc, UInt8.xor_self, UInt8.xor_zero]
  unfold step
  by_cases hp : d.pos.val + 1 < rate
  · simp only [hp, ↓reduceDIte, hsum, and_self]
  · simp only [hp, ↓reduceDIte, hsum, and_self]

/-- Plain data that went in as a sum is what the enciphered data gives when it takes its place. -/
theorem run_input_run_sum (d : Duplex permute) (data : Bytes) :
    d.run .input (d.run .sum data).1 = (data, (d.run .sum data).2) := by
  induction data generalizing d with
  | nil => rfl
  | cons input rest ih => rw [run_cons .sum, run_cons .input, (d.step_step input).1, ih]

/-- The enciphered data is what the plain data gives that it was read as. -/
theorem run_sum_run_input (d : Duplex permute) (data : Bytes) :
    d.run .sum (d.run .input data).1 = (data, (d.run .input data).2) := by
  induction data generalizing d with
  | nil => rfl
  | cons input rest ih => rw [run_cons .input, run_cons .sum, (d.step_step input).2, ih]

theorem run_input_eq_iff (d : Duplex permute) (plain enciphered : Bytes) :
    (d.run .input enciphered).1 = plain ↔ (d.run .sum plain).1 = enciphered := by
  constructor
  · rintro rfl
    rw [run_sum_run_input]
  · rintro rfl
    rw [run_input_run_sum]

theorem all_eq_zero_iff (data : Bytes) :
    data.all (· == 0) = true ↔ data = List.replicate data.length 0 := by
  rw [List.all_eq_true, List.eq_replicate_iff]
  simp only [beq_iff_eq, true_and]

theorem length_sendMac (d : Duplex permute) (n : Nat) : (d.sendMac n).1.length = n := by
  rw [sendMac, addData, length_run, List.length_replicate]

namespace Mirrors

/-- What one side adds, and what comes of it on the other side in its place. -/
theorem putData_addData (h : Mirrors a b) (op : Operation) (data : Bytes) :
    (b.putData op.answer (a.addData op data).1).1 = data ∧
      Mirrors (a.addData op data).2 (b.putData op.answer (a.addData op data).1).2 := by
  have hadd := h.addData op data
  have hinverse : b.putData op.answer (b.addData op.answer data).1 =
      (data, (b.addData op.answer data).2) :=
    (b.announce op.answer).run_input_run_sum data
  rw [hadd.1, hinverse]
  exact ⟨rfl, hadd.2⟩

/-- Nothing else on the first side brings forth the same on the second. -/
theorem putData_eq_iff (h : Mirrors a b) (op : Operation) (plain enciphered : Bytes) :
    (b.putData op.answer enciphered).1 = plain ↔ (a.addData op plain).1 = enciphered := by
  rw [(h.addData op plain).1]
  exact (b.announce op.answer).run_input_eq_iff plain enciphered

theorem receiveEncrypted (h : Mirrors a b) (data : Bytes) :
    (b.receiveEncrypted (a.sendEncrypted data).1).1 = data ∧
      Mirrors (a.sendEncrypted data).2 (b.receiveEncrypted (a.sendEncrypted data).1).2 :=
  h.putData_addData .sendEncrypted data

theorem receiveEncrypted_eq_iff (h : Mirrors a b) (plain enciphered : Bytes) :
    (b.receiveEncrypted enciphered).1 = plain ↔ (a.sendEncrypted plain).1 = enciphered :=
  h.putData_eq_iff .sendEncrypted plain enciphered

/-- A tag is accepted exactly if it is the one that the other side draws. -/
theorem receiveMac_iff (h : Mirrors a b) (tag : Bytes) :
    (b.receiveMac tag).1 = true ↔ (a.sendMac tag.length).1 = tag := by
  have hlength : (b.putData .receiveMac tag).1.length = tag.length := length_run _ _ _
  rw [Duplex.receiveMac, all_eq_zero_iff, hlength]
  exact h.putData_eq_iff .sendMac _ tag

theorem receiveMac (h : Mirrors a b) (n : Nat) :
    (b.receiveMac (a.sendMac n).1).1 = true ∧
      Mirrors (a.sendMac n).2 (b.receiveMac (a.sendMac n).1).2 := by
  refine ⟨(h.receiveMac_iff _).2 (by rw [length_sendMac]), ?_⟩
  exact (h.putData_addData .sendMac (List.replicate n 0)).2

end Mirrors

end Duplex

end DuplexHandshake.Strobe
