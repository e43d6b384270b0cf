import AssetOracle.Decimal.Fixed

/-!
# Shortest digits

The fewest decimal digits that read back as a given number. `Interval` holds the reals that
round to it; for one digit, two digits, and so on up to seventeen, the two neighbours of the
exact value on that decimal grid are tried, and the first grid with a neighbour inside the
interval gives the answer, the nearer one if both are inside.

`Notation10` holds the decisions of a printed format, and `render` follows them.
-/

namespace AssetOracle.Decimal

/-- The decimal number `significand * 10 ^ exponent`. -/
structure Decimal10 where
  significand : Nat
  exponent : Int
deriving DecidableEq

/-- The reals that round to one number, in units of `2 ^ exponent`: the ends belong to the
    interval exactly when its number has an even significand. -/
structure Interval where
  low : Nat
  value : Nat
  high : Nat
  exponent : Int
  closed : Bool

/-- The interval of a positive finite number. The gap below a power of two is half the gap above. -/
def Interval.around (significand : Nat) (exponent : Int) : Interval where
  low := 4 * significand - if significand = 0x10000000000000 ∧ -1074 < exponent then 1 else 2
  value := 4 * significand
  high := 4 * significand + 2
  exponent := exponent - 2
  closed := significand % 2 = 0

/-- A power of two or ten as a numerator over a denominator. -/
def power (base : Nat) (exponent : Int) : Nat × Nat :=
  (Nat.pow base exponent.toNat, Nat.pow base (-exponent).toNat)

/-- Whether `count * 10 ^ unit` lies in the interval. -/
def Interval.holds (i : Interval) (count : Nat) (unit : Int) : Bool :=
  let (two, twoBelow) := power 2 i.exponent
  let (ten, tenBelow) := power 10 unit
  let point := count * ten * twoBelow
  let low := i.low * two * tenBelow
  let high := i.high * two * tenBelow
  if i.closed then low ≤ point && point ≤ high else low < point && point < high

/-- The number of digits before the point of `significand * 2 ^ exponent`, not positive for a
    number below one: `10 ^ (p - 1) ≤ value < 10 ^ p`. -/
def magnitude10 (significand : Nat) (exponent : Int) : Int :=
  let (two, twoBelow) := power 2 exponent
  ((digits (significand * two * Nat.pow 10 400 / twoBelow)).length : Int) - 400

/-- Tries the grid with `count` digits and then the finer ones. -/
def Interval.search (i : Interval) (size : Int) : Nat → Nat → Decimal10
  | 0, _ => ⟨0, 0⟩
  | steps + 1, count =>
    let unit := size - count
    let (two, twoBelow) := power 2 i.exponent
    let (ten, tenBelow) := power 10 unit
    let num := i.value * two * tenBelow
    let den := twoBelow * ten
    let below := num / den
    match i.holds below unit, i.holds (below + 1) unit with
    | true, true => ⟨roundHalfEven num den, unit⟩
    | true, false => ⟨below, unit⟩
    | false, true => ⟨below + 1, unit⟩
    | false, false => i.search size steps (count + 1)

/-- The shortest decimal that reads back as `significand * 2 ^ exponent`. -/
def shortest (significand : Nat) (exponent : Int) : Decimal10 :=
  if significand = 0 then ⟨0, 0⟩
  else (Interval.around significand exponent).search (magnitude10 significand exponent) 17 1

/-- How a format writes the shortest digits of a number. -/
structure NumberStyle where
  /-- The scientific exponents that are written positionally. -/
  positionalFrom : Option Int
  positionalTo : Option Int
  /-- The least number of digits in a scientific exponent. -/
  exponentDigits : Nat
  /-- The texts of the numbers that have no digits. -/
  infinite : String
  notANumber : String

/-- Digits with the point after the first `before` of them, `.0` when none is left over. -/
def placePoint (ds : List Char) (before : Int) : List Char :=
  if before ≤ 0 then
    '0' :: '.' :: List.replicate (-before).toNat '0' ++ ds
  else if before < ds.length then
    ds.take before.toNat ++ '.' :: ds.drop before.toNat
  else
    ds ++ List.replicate (before.toNat - ds.length) '0' ++ ['.', '0']

/-- One digit before the point and an exponent with its sign. -/
def scientific (ds : List Char) (exponent : Int) (width : Nat) : List Char :=
  let mantissa := match ds with
    | first :: second :: more => first :: '.' :: second :: more
    | short => short
  let sign := if exponent < 0 then '-' else '+'
  mantissa ++ 'e' :: sign :: padded width exponent.natAbs

/-- Writes a number in a style. -/
def NumberStyle.render (style : NumberStyle) (x : Binary64) : String :=
  match x.view with
  | .notANumber => style.notANumber
  | .infinite negative => (if negative then "-" else "") ++ style.infinite
  | .finite negative significand exponent =>
    let d := shortest significand exponent
    let ds := dropZeros (digits d.significand)
    let ds := if ds.isEmpty then ['0'] else ds
    let before : Int := (digits d.significand).length + d.exponent
    let positional :=
      style.positionalFrom.all (· ≤ before - 1) && style.positionalTo.all (before - 1 ≤ ·)
    let body := if positional then placePoint ds before
      else scientific ds (before - 1) style.exponentDigits
    String.ofList ((if negative then ['-'] else []) ++ body)

end AssetOracle.Decimal
