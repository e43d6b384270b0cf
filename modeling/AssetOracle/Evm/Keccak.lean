/-!
# Keccak-256

The hash by which account addresses are given their mixed case. A state is twenty-five lanes of
sixty-four bits, row after row; bytes are absorbed in blocks of 136, and the digest is the first
thirty-two bytes of the final state.
-/

namespace AssetOracle.Evm.Keccak

/-- The twenty-five lanes; lane `(x, y)` is at `x + 5 * y`. -/
abbrev State := Array UInt64

/-- A lane, with both coordinates taken modulo five. -/
def lane (s : State) (x y : Nat) : UInt64 := s.getD (x % 5 + 5 * (y % 5)) 0

/-- The state with the lanes that a function gives. -/
def build (f : Nat → Nat → UInt64) : State :=
  ((List.range 25).map fun i => f (i % 5) (i / 5)).toArray

/-- Rotates a lane to the left. -/
def rotate (w : UInt64) (n : Nat) : UInt64 :=
  if n = 0 then w else (w <<< UInt64.ofNat n) ||| (w >>> UInt64.ofNat (64 - n))

/-- How far each lane is rotated. -/
def offsets : Array Nat :=
  #[0, 1, 62, 28, 27, 36, 44, 6, 55, 20, 3, 10, 43, 25, 39, 41, 45, 15, 21, 8, 18, 2, 61, 56, 14]

/-- What each round adds to the first lane. -/
def roundConstants : List UInt64 :=
  [0x0000000000000001, 0x0000000000008082, 0x800000000000808A, 0x8000000080008000,
    0x000000000000808B, 0x0000000080000001, 0x8000000080008081, 0x8000000000008009,
    0x000000000000008A, 0x0000000000000088, 0x0000000080008009, 0x000000008000000A,
    0x000000008000808B, 0x800000000000008B, 0x8000000000008089, 0x8000000000008003,
    0x8000000000008002, 0x8000000000000080, 0x000000000000800A, 0x800000008000000A,
    0x8000000080008081, 0x8000000000008080, 0x0000000080000001, 0x8000000080008008]

/-- Adds to each lane the parities of two neighbouring columns. -/
def mixColumns (s : State) : State :=
  let column := ((List.range 5).map fun x =>
    (List.range 5).foldl (fun acc y => acc ^^^ lane s x y) 0).toArray
  let parity (x : Nat) : UInt64 := column.getD (x % 5) 0
  build fun x y => lane s x y ^^^ parity (x + 4) ^^^ rotate (parity (x + 1)) 1

/-- Rotates every lane and moves it to its new place. -/
def permute (s : State) : State :=
  build fun x y =>
    let u := (x + 3 * y) % 5
    rotate (lane s u x) (offsets.getD (u + 5 * x) 0)

/-- Combines every lane with the next two of its row. -/
def mixRows (s : State) : State :=
  build fun x y => lane s x y ^^^ (~~~ lane s (x + 1) y &&& lane s (x + 2) y)

/-- One round. -/
def round (s : State) (constant : UInt64) : State :=
  let s := mixRows (permute (mixColumns s))
  s.modify 0 (· ^^^ constant)

/-- The permutation of the state. -/
def shuffle (s : State) : State := roundConstants.foldl round s

/-- The number of bytes that a block absorbs. -/
def rate : Nat := 136

/-- Bytes with the least significant first, as one word. -/
def wordOf (bytes : List UInt8) : UInt64 :=
  bytes.foldr (fun b acc => (acc <<< 8) ||| b.toUInt64) 0

/-- Adds a block to the state and shuffles it. -/
def absorb (s : State) (block : List UInt8) : State :=
  shuffle (build fun x y =>
    let i := x + 5 * y
    lane s x y ^^^ wordOf ((block.drop (8 * i)).take 8))

/-- Fills up the last block: a one bit after the bytes and a one bit at the end. -/
def pad (bytes : List UInt8) : List UInt8 :=
  let missing := rate - bytes.length % rate
  if missing = 1 then bytes ++ [0x81]
  else bytes ++ 0x01 :: List.replicate (missing - 2) 0 ++ [0x80]

/-- The blocks of a byte list whose length is a multiple of the rate. -/
def blocks (bytes : List UInt8) : (count : Nat) → List (List UInt8)
  | 0 => []
  | count + 1 => bytes.take rate :: blocks (bytes.drop rate) count

/-- The eight bytes of a lane, the least significant first. -/
def laneBytes (w : UInt64) : List UInt8 :=
  (List.range 8).map fun i => (w >>> UInt64.ofNat (8 * i)).toUInt8

/-- The digest of a byte list. -/
def digest (bytes : List UInt8) : List UInt8 :=
  let padded := pad bytes
  let final := (blocks padded (padded.length / rate)).foldl absorb (build fun _ _ => 0)
  (List.range 4).flatMap fun x => laneBytes (lane final x 0)

end AssetOracle.Evm.Keccak
