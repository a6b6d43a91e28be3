import DuplexHandshake.Strobe.Duplex

/-!
# What a ratchet leaves of a state

An operation that depends on the state begins with a new block. A ratchet over the whole rate therefore
overwrites exactly the 166 bytes that have met data, closes the block and runs the permutation. What is
left comes from the 34 bytes behind the rate, whatever stood in the others and wherever in a block the
operation was announced.
-/

namespace DuplexHandshake.Strobe

/-- The number of state bytes that never meet data. -/
abbrev capacity : Nat := 34

/-- The bytes of a block behind the rate. -/
def hidden (b : Block) : Vector UInt8 capacity :=
  Vector.ofFn fun i =>
    have hi : rate + i.val < 200 := Nat.add_lt_add_left i.isLt rate
    b[rate + i.val]

/-- A block whose rate has been filled with zeros, as the permutation gets it: the two marks of a full
block, 0x04 behind the data and 0x80 at the end, fall on one byte. -/
def spent (kept : Vector UInt8 capacity) : Block :=
  Vector.ofFn fun i =>
    if h : i.val < rate then 0
    else
      have hi : i.val - rate < capacity := Nat.sub_lt_left_of_lt_add (Nat.le_of_not_lt h) i.isLt
      if i.val = rate + 1 then kept[i.val - rate] ^^^ 0x84 else kept[i.val - rate]

theorem eq_of_spent {kept kept' : Vector UInt8 capacity} (h : spent kept = spent kept') :
    kept = kept' := by
  apply Vector.ext
  intro j hj
  have hin : rate + j < 200 := Nat.add_lt_add_left hj rate
  have hbyte : (spent kept)[rate + j] = (spent kept')[rate + j] := by rw [h]
  simp only [spent, Vector.getElem_ofFn, show ¬ rate + j < rate by omega, ↓reduceDIte,
    Nat.add_sub_cancel_left] at hbyte
  by_cases hend : rate + j = rate + 1
  · rw [if_pos hend, if_pos hend] at hbyte
    exact (UInt8.xor_left_inj 0x84).1 hbyte
  · rw [if_neg hend, if_neg hend] at hbyte
    exact hbyte

/-- A block with data in place of its bytes from a position on. -/
def overwrite (b : Block) (p : Nat) (data : Bytes) : Block :=
  Vector.ofFn fun i => if p ≤ i.val then data.getD (i.val - p) b[i.val] else b[i.val]

theorem overwrite_nil (b : Block) (p : Nat) : overwrite b p [] = b := by
  ext i hi
  simp [overwrite]

theorem overwrite_cons (b : Block) {p : Nat} (hp : p < 200) (x : UInt8) (data : Bytes) :
    overwrite (b.set p x) (p + 1) data = overwrite b p (x :: data) := by
  ext i hi
  simp only [overwrite, Vector.getElem_ofFn, Vector.getElem_set]
  obtain hlt | rfl | hgt := Nat.lt_trichotomy i p
  · simp [show ¬ p + 1 ≤ i by omega, show ¬ p ≤ i by omega, show p ≠ i by omega]
  · simp [show ¬ i + 1 ≤ i by omega]
  · obtain ⟨k, rfl⟩ : ∃ k, i = p + 1 + k := ⟨i - (p + 1), by omega⟩
    simp [show p + 1 + k - p = k + 1 by omega, show p ≤ p + 1 + k by omega,
      show p ≠ p + 1 + k by omega]

namespace Duplex

variable {permute : Block → Block} {d : Duplex permute}

/-! ## The beginning of an operation -/

/-- A position of 0 after a byte means that the byte has closed a block. -/
theorem opened_of_step {keep : Keep} {input : UInt8} (h : (d.step keep input).2.pos = 0) :
    (d.step keep input).2.opened = 0 := by
  unfold step at h ⊢
  by_cases hp : d.pos.val + 1 < rate
  · simp only [hp, ↓reduceDIte] at h
    have hval := congrArg Fin.val h
    simp at hval
  · simp only [hp, ↓reduceDIte]
    rfl

theorem receiver_step (keep : Keep) (input : UInt8) :
    (d.step keep input).2.receiver = d.receiver := by
  unfold step
  dsimp only
  split <;> rfl

/-- An operation that depends on the state starts at the front of a new block. -/
theorem announce_of_cipher {op : Operation} (h : op.flags.cipher = true) :
    (d.announce op).pos = 0 ∧ (d.announce op).opened = 0 := by
  unfold announce
  simp only [h, true_and]
  split
  · exact ⟨rfl, rfl⟩
  · next hpos =>
    have hzero : (d.frame op).pos = 0 := Decidable.not_not.1 hpos
    refine ⟨hzero, ?_⟩
    unfold frame at hzero ⊢
    dsimp only at hzero ⊢
    rw [run_cons, run_cons, run_nil] at hzero ⊢
    exact opened_of_step hzero

theorem receiver_announce (d : Duplex permute) (op : Operation) :
    (d.announce op).receiver = (orient d.receiver op.flags).2 := by
  have hframe : (d.frame op).receiver = (orient d.receiver op.flags).2 := by
    unfold frame
    dsimp only
    rw [run_cons, run_cons, run_nil, receiver_step, receiver_step]
  unfold announce
  dsimp only
  split
  · exact hframe
  · exact hframe

/-! ## Filling a block -/

/-- Data that fills a block exactly takes the place of what was there, and closes the block. -/
theorem run_input_of_fills (x : UInt8) (data : Bytes) (h : d.pos.val + (x :: data).length = rate) :
    (d.run .input (x :: data)).2 =
      { d with block := overwrite d.block d.pos (x :: data) }.nextBlock rate (Nat.le_refl rate) := by
  induction data generalizing d x with
  | nil =>
    have hlast : ¬ d.pos.val + 1 < rate := by
      simp only [List.length_cons, List.length_nil] at h
      omega
    rw [run_cons, run_nil, ← overwrite_cons _ (Nat.lt_trans d.pos.isLt (by decide)), overwrite_nil]
    simp only [step, hlast, ↓reduceDIte]
  | cons y data ih =>
    have hmore : d.pos.val + 1 < rate := by
      simp only [List.length_cons] at h
      omega
    have hstep : (d.step .input x).2 =
        { d with block := d.block.set d.pos x, pos := ⟨d.pos.val + 1, hmore⟩ } := by
      simp only [step, hmore, ↓reduceDIte]
    have hrest : d.pos.val + 1 + (y :: data).length = rate := by
      simp only [List.length_cons] at h ⊢
      omega
    rw [run_cons, hstep, ih y hrest, ← overwrite_cons _ (Nat.lt_trans d.pos.isLt (by decide))]
    -- The position is of no account once the block is closed.
    simp only [nextBlock]

theorem getElem_spent_hidden (b : Block) {i : Nat} (hi : i < 200) :
    (spent (hidden b))[i] =
      if i < rate then 0 else if i = rate + 1 then b[i] ^^^ 0x84 else b[i] := by
  simp only [spent, hidden, Vector.getElem_ofFn]
  split
  · rfl
  · next hge => simp only [Nat.add_sub_cancel' (Nat.le_of_not_lt hge)]

theorem getElem_overwrite_zeros (b : Block) {i : Nat} (hi : i < 200) :
    (overwrite b 0 (List.replicate rate 0))[i] = if i < rate then 0 else b[i] := by
  rw [overwrite, Vector.getElem_ofFn, if_pos (Nat.zero_le i), Nat.sub_zero,
    List.getD_eq_getElem?_getD, List.getElem?_replicate]
  split <;> rfl

/-- With a full rate of zeros over it, a block is closed as one of which only the bytes behind the rate
were kept. -/
theorem nextBlock_overwrite_zeros (d : Duplex permute) (h : d.opened = 0) :
    ({ d with block := overwrite d.block 0 (List.replicate rate 0) : Duplex permute }).nextBlock rate
        (Nat.le_refl rate) =
      { d with block := permute (spent (hidden d.block)), pos := 0, opened := 0 } := by
  have hmarks : ∀ x : UInt8, x ^^^ 0x04 ^^^ 0x80 = x ^^^ 0x84 := fun x => UInt8.xor_assoc x 0x04 0x80
  have hopened : ∀ x : UInt8, x ^^^ (0 : Fin (rate + 1)).val.toUInt8 = x := fun x => UInt8.xor_zero
  rw [nextBlock, Duplex.mk.injEq]
  refine ⟨congrArg permute ?_, rfl, rfl, rfl⟩
  ext i hi
  simp only [Vector.getElem_set, getElem_overwrite_zeros, getElem_spent_hidden, h, hopened]
  by_cases hend : i = rate + 1
  · subst hend
    simp [hmarks, show ¬ rate + 1 < rate by decide]
  · by_cases hdata : i = rate
    · subst hdata
      simp
    · simp [hend, Ne.symm hend, Ne.symm hdata]

/-- A whole block of data takes the place of all that was in it, and closes it. -/
theorem run_input_of_length {d : Duplex permute} (hpos : d.pos = 0) {data : Bytes}
    (hdata : data.length = rate) :
    (d.run .input data).2 =
      { d with block := overwrite d.block 0 data }.nextBlock rate (Nat.le_refl rate) := by
  obtain _ | ⟨x, data⟩ := data
  · exact absurd hdata (by decide)
  · have hfills : d.pos.val + (x :: data).length = rate := by
      rw [hpos, hdata]
      rfl
    rw [run_input_of_fills x data hfills, hpos]
    rfl

/-- Zeros over the whole rate, from the front of a block, leave nothing of it. -/
theorem run_zeros {d : Duplex permute} (hpos : d.pos = 0) (hopened : d.opened = 0) :
    (d.run .input (List.replicate rate 0)).2 =
      { d with block := permute (spent (hidden d.block)), pos := 0, opened := 0 } := by
  rw [run_input_of_length hpos List.length_replicate]
  exact nextBlock_overwrite_zeros d hopened

/-- A ratchet over the whole rate leaves the permutation of a block that depends on the 34 bytes behind
the rate alone. -/
theorem ratchet_rate (d : Duplex permute) :
    d.ratchet rate =
      { block := permute (spent (hidden (d.announce .ratchet).block))
        pos := 0
        opened := 0
        receiver := d.receiver } := by
  have hcipher : Operation.ratchet.flags.cipher = true := rfl
  obtain ⟨hpos, hopened⟩ := announce_of_cipher (d := d) hcipher
  have hreceiver : (d.announce .ratchet).receiver = d.receiver := receiver_announce d .ratchet
  have hrun := run_zeros hpos hopened
  rw [hreceiver] at hrun
  exact hrun

end Duplex

end DuplexHandshake.Strobe
