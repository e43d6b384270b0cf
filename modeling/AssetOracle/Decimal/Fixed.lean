import AssetOracle.Decimal.Binary64

/-!
# Fixed notation

Decimal text with a given number of places. `Binary64.fixed` rounds the exact value of a number
to the nearest multiple of the last place, a half to the even one; `scaled` writes an integer
count of small units exactly and drops the zeros that end its fraction.
-/

namespace AssetOracle.Decimal

/-- The decimal digits of a natural number. -/
def digits (n : Nat) : List Char := Nat.toDigits 10 n

/-- The number that one or more decimal digits stand for. -/
def ofDigits? (cs : List Char) : Option Nat :=
  if cs.isEmpty then none
  else cs.foldlM (fun acc c => if c.isDigit then some (10 * acc + (c.toNat - 48)) else none) 0

/-- At least `width` digits, with zeros in front. -/
def padded (width n : Nat) : List Char :=
  let ds := digits n
  List.replicate (width - ds.length) '0' ++ ds

/-- The text of `units / 10 ^ places` with exactly `places` digits after the point. -/
def pointed (places units : Nat) : List Char :=
  digits (units / Nat.pow 10 places) ++ '.' :: padded places (units % Nat.pow 10 places)

/-- A list without the zeros at its end. -/
def dropZeros (ds : List Char) : List Char := (ds.reverse.dropWhile (· = '0')).reverse

/-- The text of `units / 10 ^ places` without a zero at the end of the fraction, and without a
    point when there is no fraction. -/
def scaled (places units : Nat) : List Char :=
  if units % Nat.pow 10 places = 0 then digits (units / Nat.pow 10 places)
  else
    digits (units / Nat.pow 10 places) ++
      '.' :: dropZeros (padded places (units % Nat.pow 10 places))

/-- How many multiples of `10 ^ -places` are nearest to `significand * 2 ^ exponent`. -/
def nearestUnits (places significand : Nat) (exponent : Int) : Nat :=
  roundHalfEven (significand * Nat.pow 10 places * Nat.pow 2 exponent.toNat)
    (Nat.pow 2 (-exponent).toNat)

/-- Fixed notation with `places` digits after the point; the sign bit is always shown. -/
def Binary64.fixed (places : Nat) (x : Binary64) : List Char :=
  match x.view with
  | .notANumber => "NaN".toList
  | .infinite negative => (if negative then "-inf" else "inf").toList
  | .finite negative significand exponent =>
    (if negative then ['-'] else []) ++ pointed places (nearestUnits places significand exponent)

end AssetOracle.Decimal
