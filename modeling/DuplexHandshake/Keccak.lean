/-!
# The permutation Keccak-f[1600]

The permutation acts on 25 lanes of 64 bits, lane `x + 5 * y` standing at column `x` of row `y`.
Every step is written as a lookup: it says which lanes of the old state a lane of the new one is
made of. To its users the state is a block of 200 bytes, lane after lane, low byte first.
-/

namespace DuplexHandshake

/-- A state of the permutation, as bytes. -/
abbrev Block := Vector UInt8 200

namespace Keccak

/-- A state of the permutation, as lanes. -/
abbrev Lanes := Vector UInt64 25

def ofBlock (b : Block) : Lanes :=
  -- The low byte comes first, and is shifted in last.
  Vector.ofFn fun i =>
    (List.finRange 8).foldr (fun j acc => acc <<< 8 ||| b[8 * i.val + j.val].toUInt64) 0

def toBlock (a : Lanes) : Block :=
  Vector.ofFn fun i => (a[i.val / 8] >>> (8 * (i.val % 8)).toUInt64).toUInt8

def rotate (w n : UInt64) : UInt64 :=
  w <<< n ||| w >>> (64 - n)

def parities (a : Lanes) : Vector UInt64 5 :=
  Vector.ofFn fun x =>
    a[x.val] ^^^ a[x.val + 5] ^^^ a[x.val + 10] ^^^ a[x.val + 15] ^^^ a[x.val + 20]

/-- Adds to every bit the parities of two neighbouring columns. -/
def theta (a : Lanes) : Lanes :=
  let p := parities a
  let d : Vector UInt64 5 :=
    Vector.ofFn fun x => p[(x.val + 4) % 5] ^^^ rotate p[(x.val + 1) % 5] 1
  Vector.ofFn fun i => a[i.val] ^^^ d[i.val % 5]

def rotations : Vector UInt64 25 :=
  #v[0, 1, 62, 28, 27, 36, 44, 6, 55, 20, 3, 10, 43, 25, 39, 41, 45, 15, 21, 8, 18, 2, 61, 56, 14]

/-- Rotates the lanes and moves them to new places: the lane at column `x` of row `y` goes to column
`y` of row `2 * x + 3 * y`. -/
def rhoPi (a : Lanes) : Lanes :=
  Vector.ofFn fun i =>
    -- The place that the lane at this place comes from.
    let source := (i.val % 5 + 3 * (i.val / 5)) % 5 + 5 * (i.val % 5)
    rotate a[source] rotations[source]

/-- Combines every lane with the two to its right in the same row. -/
def chi (a : Lanes) : Lanes :=
  Vector.ofFn fun i =>
    let row := i.val / 5 * 5
    a[i.val] ^^^ (~~~a[row + (i.val + 1) % 5] &&& a[row + (i.val + 2) % 5])

/-- One round; the constant breaks the symmetry between rounds. -/
def round (a : Lanes) (constant : UInt64) : Lanes :=
  let b := chi (rhoPi (theta a))
  b.set 0 (b[0] ^^^ constant)

def roundConstants : List UInt64 :=
  [0x0000000000000001, 0x0000000000008082, 0x800000000000808A, 0x8000000080008000,
    0x000000000000808B, 0x0000000080000001, 0x8000000080008081, 0x8000000000008009,
    0x000000000000008A, 0x0000000000000088, 0x0000000080008009, 0x000000008000000A,
    0x000000008000808B, 0x800000000000008B, 0x8000000000008089, 0x8000000000008003,
    0x8000000000008002, 0x8000000000000080, 0x000000000000800A, 0x800000008000000A,
    0x8000000080008081, 0x8000000000008080, 0x0000000080000001, 0x8000000080008008]

def permute (b : Block) : Block :=
  toBlock (roundConstants.foldl round (ofBlock b))

end Keccak

end DuplexHandshake
