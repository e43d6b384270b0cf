import AssetOracle.Document.Basic

/-!
# Number literals

A number in JSON text, digit by digit, and the number it is read as. Integers of sixty-four bits
are exact. Of any other literal the leading digits that fit sixty-four bits are taken as an
integer, rounded to a double, and scaled by a power of ten with one more rounding.
-/

namespace AssetOracle.Json

open Decimal (Binary64)

/-- A number literal: digits before and after the point, and a signed exponent. -/
structure Literal where
  negative : Bool
  whole : List Nat
  fraction : Option (List Nat)
  exponent : Option Int

/-- The greatest number of sixty-four bits. -/
def maxWord : Nat := UInt64.size - 1

/-- Appends digits to a number as long as it fits sixty-four bits, and counts them. -/
def appendDigits (acc : Nat) : List Nat → Nat × Nat
  | [] => (acc, 0)
  | d :: ds =>
    if maxWord < acc * 10 + d then (acc, 0)
    else
      let (value, count) := appendDigits (acc * 10 + d) ds
      (value, count + 1)

/-- Scales by a power of ten. Dividing three times by the greatest power brings every significand
    to zero, so the steps never run out. -/
def scaleByTen (x : Binary64) (exponent : Int) : (steps : Nat) → Option Binary64
  | 0 => some x
  | steps + 1 =>
    if exponent.natAbs ≤ 308 then
      let power := Binary64.ofNat (Nat.pow 10 exponent.natAbs)
      if 0 ≤ exponent then
        let y := x * power
        if y.isFinite then some y else none
      else some (x / power)
    else if x.isZero then some x
    else if 0 ≤ exponent then none
    else scaleByTen (x / Binary64.ofNat (Nat.pow 10 308)) (exponent + 308) steps

/-- The number that a literal is read as; a literal beyond the range of doubles has none. -/
def Literal.number? (l : Literal) : Option Number :=
  let (whole, taken) := appendDigits 0 l.whole
  let dropped := l.whole.length - taken
  let integral := l.fraction.isNone && l.exponent.isNone && dropped = 0
  if integral && !l.negative then some (.integer whole)
  else if integral && 0 < whole && whole ≤ 0x8000000000000000 then some (.integer (-(whole : Int)))
  else
    let (significand, places) := appendDigits whole (l.fraction.getD [])
    let exponent := l.exponent.getD 0 + dropped - places
    (scaleByTen (Binary64.ofNat significand) exponent 5).map fun x =>
      .float (if l.negative then -x else x)

end AssetOracle.Json
