import AssetOracle.Decimal.Rounding

/-!
# Binary floating point

A `Binary64` is its sixty-four bits. `Binary64.view` reads them as a sign, an integer
significand and a power of two, and `Binary64.ofRatio` is the way back: the nearest number to
an exact quotient, ties to the even significand. Arithmetic is exact arithmetic on the views
followed by that one rounding.
-/

namespace AssetOracle.Decimal

/-- A double-precision number, given by its bit pattern. -/
structure Binary64 where
  bits : UInt64
deriving DecidableEq

/-- What the bits of a number say: a finite number is
    `significand * 2 ^ exponent`, negated when `negative` is set. -/
inductive Binary64.View where
  | finite (negative : Bool) (significand : Nat) (exponent : Int)
  | infinite (negative : Bool)
  | notANumber
deriving DecidableEq

namespace Binary64

/-- The sign bit. -/
def isNegative (x : Binary64) : Bool := x.bits.toNat / 0x8000000000000000 = 1

/-- Reads the three fields of the bit pattern. -/
def view (x : Binary64) : View :=
  let exponent : Nat := x.bits.toNat / 0x10000000000000 % 0x800
  let fraction : Nat := x.bits.toNat % 0x10000000000000
  if exponent = 2047 then
    if fraction = 0 then .infinite x.isNegative else .notANumber
  else if exponent = 0 then .finite x.isNegative fraction (-1074)
  else .finite x.isNegative (fraction + 0x10000000000000) (exponent - 1075)

/-- A magnitude with a sign bit in front. -/
def ofMagnitude (negative : Bool) (magnitude : Nat) : Binary64 :=
  ⟨UInt64.ofNat (magnitude + if negative then 0x8000000000000000 else 0)⟩

/-- Positive zero. -/
def zero : Binary64 := ⟨0⟩

/-- Negative zero. -/
def negativeZero : Binary64 := ⟨0x8000000000000000⟩

/-- The magnitude of both infinities. -/
def infiniteMagnitude : Nat := 2047 * 0x10000000000000

/-- The quiet number that invalid operations answer. -/
def nan : Binary64 := ⟨0x7ff8000000000000⟩

/-- Changes the sign. -/
def neg (x : Binary64) : Binary64 := ⟨x.bits ^^^ 0x8000000000000000⟩

/-- The greatest `k` with `2 ^ k ≤ num / den`. -/
def floorLog2 (num den : Nat) : Int :=
  let guess : Int := (Nat.log2 num : Int) - Nat.log2 den
  if den * Nat.pow 2 guess.toNat ≤ num * Nat.pow 2 (-guess).toNat then guess else guess - 1

/-- The nearest magnitude to `num / den`: the unit in the last place is `2 ^ unit`, which is
    never finer than that of the smallest numbers, and what rounds beyond the largest is
    infinite. -/
def magnitudeOfRatio (num den : Nat) : Nat :=
  if num = 0 then 0
  else
    let unit := max (floorLog2 num den - 52) (-1074)
    let significand := roundHalfEven (num * Nat.pow 2 (-unit).toNat) (den * Nat.pow 2 unit.toNat)
    min infiniteMagnitude ((unit + 1074).toNat * 0x10000000000000 + significand)

/-- The nearest number to a signed quotient. -/
def ofRatio (negative : Bool) (num den : Nat) : Binary64 :=
  ofMagnitude negative (magnitudeOfRatio num den)

/-- The nearest number to `significand * 2 ^ exponent`. -/
def ofScaled (negative : Bool) (significand : Nat) (exponent : Int) : Binary64 :=
  ofRatio negative (significand * Nat.pow 2 exponent.toNat) (Nat.pow 2 (-exponent).toNat)

/-- The nearest number to a natural number. -/
def ofNat (n : Nat) : Binary64 := ofRatio false n 1

/-- The nearest number to an integer. -/
def ofInt (n : Int) : Binary64 := ofRatio (n < 0) n.natAbs 1

/-- Whether the number is neither infinite nor undefined. -/
def isFinite (x : Binary64) : Bool :=
  match x.view with
  | .finite .. => true
  | _ => false

/-- Whether the number is a zero of either sign. -/
def isZero (x : Binary64) : Bool :=
  match x.view with
  | .finite _ 0 _ => true
  | _ => false

/-- A significand with its sign. -/
def signed (negative : Bool) (significand : Nat) : Int :=
  if negative then -(significand : Int) else significand

/-- The rounded sum. Opposite numbers give positive zero. -/
def add (x y : Binary64) : Binary64 :=
  match x.view, y.view with
  | .notANumber, _ => nan
  | _, .notANumber => nan
  | .infinite a, .infinite b => if a = b then x else nan
  | .infinite _, _ => x
  | _, .infinite _ => y
  | .finite a m p, .finite b n q =>
    let unit := min p q
    let sum := signed a m * Nat.pow 2 (p - unit).toNat + signed b n * Nat.pow 2 (q - unit).toNat
    if sum = 0 then (if a && b then negativeZero else zero)
    else ofScaled (sum < 0) sum.natAbs unit

/-- The rounded product. -/
def mul (x y : Binary64) : Binary64 :=
  match x.view, y.view with
  | .notANumber, _ => nan
  | _, .notANumber => nan
  | .infinite a, .infinite b => ofMagnitude (a != b) infiniteMagnitude
  | .infinite a, .finite b n _ => if n = 0 then nan else ofMagnitude (a != b) infiniteMagnitude
  | .finite a m _, .infinite b => if m = 0 then nan else ofMagnitude (a != b) infiniteMagnitude
  | .finite a m p, .finite b n q => ofScaled (a != b) (m * n) (p + q)

/-- The rounded quotient. -/
def div (x y : Binary64) : Binary64 :=
  match x.view, y.view with
  | .notANumber, _ => nan
  | _, .notANumber => nan
  | .infinite _, .infinite _ => nan
  | .infinite a, .finite b _ _ => ofMagnitude (a != b) infiniteMagnitude
  | .finite a _ _, .infinite b => ofMagnitude (a != b) 0
  | .finite a m p, .finite b n q =>
    if n = 0 then (if m = 0 then nan else ofMagnitude (a != b) infiniteMagnitude)
    else ofRatio (a != b) (m * Nat.pow 2 (p - q).toNat) (n * Nat.pow 2 (q - p).toNat)

instance : Neg Binary64 := ⟨neg⟩
instance : Add Binary64 := ⟨add⟩
instance : Mul Binary64 := ⟨mul⟩
instance : Div Binary64 := ⟨div⟩

/-- The sum of a list, from the left. It starts from negative zero, which is neutral, so a sum of
    negative zeros keeps its sign. -/
def sum (xs : List Binary64) : Binary64 := xs.foldl add negativeZero

end Binary64

end AssetOracle.Decimal
