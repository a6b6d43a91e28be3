import DuplexHandshake.Bytes
import DuplexHandshake.Keccak
import DuplexHandshake.Strobe.Operation

/-!
# The duplex

A sponge over a permutation of 200-byte blocks, of which the first 166 bytes meet data. All work on
data is one rule: a byte that comes in is added to the state byte at the current position, the sum
comes out, and either the sum or the incoming byte stays in its place. With the sum staying, plain
data comes out enciphered; with the incoming byte staying, enciphered data comes out plain, and both
leave the same state. The permutation runs whenever the 166 bytes are used up.

The permutation is a parameter: nothing here depends on which one it is.
-/

namespace DuplexHandshake.Strobe

/-- The number of state bytes that meet data. -/
abbrev rate : Nat := 166

/-- A duplex over the permutation `permute`. -/
structure Duplex (permute : Block → Block) where
  block : Block
  pos : Fin rate
  /-- One more than the position at which the current operation was announced, or 0 if that was in
  an earlier block. -/
  opened : Fin (rate + 1)
  /-- Whether this side was the receiver in the first operation that carried data between the sides;
  unset before it. -/
  receiver : Option Bool
  deriving DecidableEq

/-- What stays in the state where a byte of data came in. -/
inductive Keep where
  | sum
  | input
  deriving DecidableEq

namespace Duplex

variable {permute : Block → Block}

/-! ## The sponge -/

/-- Closes the current block at position `p` and opens the next one: the last announcement, the
position and the end of the rate are marked, then the permutation runs. -/
def nextBlock (d : Duplex permute) (p : Nat) (h : p ≤ rate) : Duplex permute :=
  have hp : p + 1 < 200 := Nat.lt_of_le_of_lt (Nat.succ_le_succ h) (by decide)
  let b := d.block.set p (d.block[p] ^^^ d.opened.val.toUInt8)
  let b := b.set (p + 1) (b[p + 1] ^^^ 0x04)
  let b := b.set (rate + 1) (b[rate + 1] ^^^ 0x80)
  { d with block := permute b, pos := 0, opened := 0 }

/-- One byte of data: the sum comes out. -/
def step (keep : Keep) (d : Duplex permute) (input : UInt8) : UInt8 × Duplex permute :=
  let sum := input ^^^ d.block[d.pos]
  let kept := match keep with
    | .sum => sum
    | .input => input
  let pos := d.pos
  let d := { d with block := d.block.set pos kept }
  -- A block that is full is closed at once, and not when the next byte comes.
  if h : pos.val + 1 < rate then (sum, { d with pos := ⟨pos.val + 1, h⟩ })
  else (sum, d.nextBlock rate (Nat.le_refl rate))

/-- One more byte of data. What came out so far stands in reverse. -/
def feed (keep : Keep) : Bytes × Duplex permute → UInt8 → Bytes × Duplex permute
  | (out, d), input =>
    let (o, d) := d.step keep input
    (o :: out, d)

/-- Data of any length, byte by byte: what comes out, and the state left behind. -/
def run (keep : Keep) (d : Duplex permute) (data : Bytes) : Bytes × Duplex permute :=
  let (out, d) := data.foldl (feed keep) ([], d)
  (out.reverse, d)

theorem foldl_feed (keep : Keep) (d : Duplex permute) (data out : Bytes) :
    data.foldl (feed keep) (out, d) =
      ((d.run keep data).1.reverse ++ out, (d.run keep data).2) := by
  induction data generalizing d out with
  | nil => simp [run]
  | cons b rest ih =>
    simp only [run, List.foldl_cons, feed]
    rw [ih, ih _ [(d.step keep b).1]]
    simp

theorem run_nil (keep : Keep) (d : Duplex permute) : d.run keep [] = ([], d) := rfl

theorem run_cons (keep : Keep) (d : Duplex permute) (b : UInt8) (rest : Bytes) :
    d.run keep (b :: rest) =
      ((d.step keep b).1 :: ((d.step keep b).2.run keep rest).1,
        ((d.step keep b).2.run keep rest).2) := by
  rw [run, List.foldl_cons, feed, foldl_feed]
  simp

/-! ## Announcing an operation -/

/-- The flags to announce, and the mark of direction afterwards. The side that received first turns
the flag of its direction over, so that both sides announce one and the same operation. -/
def orient (receiver : Option Bool) (flags : Flags) : Flags × Option Bool :=
  if flags.transport then
    -- The first such operation settles which side is the receiver.
    let receives := receiver.getD flags.inbound
    ({ flags with inbound := receives != flags.inbound }, some receives)
  else (flags, receiver)

/-- Takes in that an operation begins: where the last one was announced, and the flags of this one. -/
def frame (d : Duplex permute) (op : Operation) : Duplex permute :=
  let (flags, receiver) := orient d.receiver op.flags
  ({ d with receiver, opened := d.pos.succ }.run .sum [d.opened.val.toUInt8, flags.toByte]).2

/-- Announces an operation. One that depends on the state of the sponge begins with a new block. -/
def announce (d : Duplex permute) (op : Operation) : Duplex permute :=
  let framed := d.frame op
  -- At position 0 the announcement has just filled a block.
  if op.flags.cipher ∧ framed.pos ≠ 0 then
    framed.nextBlock framed.pos.val (Nat.le_of_lt framed.pos.isLt)
  else framed

/-- An operation whose data stays in the state as a sum. -/
def addData (d : Duplex permute) (op : Operation) (data : Bytes) : Bytes × Duplex permute :=
  (d.announce op).run .sum data

/-- An operation whose data takes the place of what was in the state. -/
def putData (d : Duplex permute) (op : Operation) (data : Bytes) : Bytes × Duplex permute :=
  (d.announce op).run .input data

/-! ## The operations -/

/-- The constant block from which every duplex starts. -/
def seed : Block :=
  -- The last of the numbers is the length of the text in bits.
  let text := [1, rate.toUInt8 + 2, 1, 0, 1, 96] ++ Bytes.ofText "STROBEv1.0.2"
  Vector.ofFn fun i => text.getD i.val 0

def mixData (d : Duplex permute) (data : Bytes) : Duplex permute :=
  (d.addData .data data).2

def mixMetadata (d : Duplex permute) (data : Bytes) : Duplex permute :=
  (d.addData .metadata data).2

/-- A duplex separated from all others by its label. -/
def start (label : Bytes) : Duplex permute :=
  mixMetadata { block := permute seed, pos := 0, opened := 0, receiver := none } label

/-- Takes in a secret; what was in its place is lost. -/
def mixKey (d : Duplex permute) (secret : Bytes) : Duplex permute :=
  (d.putData .key secret).2

/-- Overwrites `n` bytes of the state with zeros, so that earlier states cannot be found again. -/
def ratchet (d : Duplex permute) (n : Nat) : Duplex permute :=
  (d.putData .ratchet (List.replicate n 0)).2

def prf (d : Duplex permute) (n : Nat) : Bytes × Duplex permute :=
  d.putData .prf (List.replicate n 0)

def sendClear (d : Duplex permute) (data : Bytes) : Duplex permute :=
  (d.addData .sendClear data).2

def receiveClear (d : Duplex permute) (data : Bytes) : Duplex permute :=
  (d.addData .receiveClear data).2

def sendEncrypted (d : Duplex permute) (data : Bytes) : Bytes × Duplex permute :=
  d.addData .sendEncrypted data

def receiveEncrypted (d : Duplex permute) (data : Bytes) : Bytes × Duplex permute :=
  d.putData .receiveEncrypted data

/-- Draws a tag of `n` bytes that vouches for everything so far. -/
def sendMac (d : Duplex permute) (n : Nat) : Bytes × Duplex permute :=
  d.addData .sendMac (List.replicate n 0)

/-- Takes in a tag, and tells whether it is the one that the peer would draw in this state. -/
def receiveMac (d : Duplex permute) (tag : Bytes) : Bool × Duplex permute :=
  -- What comes out is the sum of both tags.
  let (difference, d) := d.putData .receiveMac tag
  (difference.all (· == 0), d)

end Duplex

end DuplexHandshake.Strobe
