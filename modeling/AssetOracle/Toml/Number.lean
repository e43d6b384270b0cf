import AssetOracle.Json.Literal
import AssetOracle.Text.Hex
import AssetOracle.Toml.Text

/-!
# Numbers and dates of a configuration file

Integers of sixty-four bits in four bases, doubles, and dates and times. Digits may be divided by
single underscores. What begins like a date or like a number with a base has to go on like one.
-/

namespace AssetOracle.Toml

open Decimal (Binary64)

/-- What a number or date stands for. -/
inductive Scalar where
  | integer (value : Int)
  | float (value : Binary64)
  | moment (text : String)

/-- Digits after the first one; an underscore has to stand between two digits. -/
def moreDigits (isDigit : Char → Bool) : Parse (List Char)
  | '_' :: c :: rest => if isDigit c then consText c (moreDigits isDigit rest) else none
  | ['_'] => none
  | c :: rest => if isDigit c then consText c (moreDigits isDigit rest) else some ([], c :: rest)
  | [] => some ([], [])

/-- One or more digits. -/
def someDigits (isDigit : Char → Bool) : Parse (List Char)
  | [] => none
  | c :: rest => if isDigit c then consText c (moreDigits isDigit rest) else none

/-- A sign, negative for a minus. -/
def sign : List Char → Bool × List Char
  | '+' :: rest => (false, rest)
  | '-' :: rest => (true, rest)
  | cs => (false, cs)

/-- Decimal digits without a zero in front of others. -/
def plainDigits : Parse (List Char)
  | '0' :: rest => some (['0'], rest)
  | cs => someDigits Char.isDigit cs

/-- The value of decimal digits. -/
def valueOf (digits : List Char) : Nat :=
  digits.foldl (fun acc c => acc * 10 + (c.toNat - 48)) 0

/-- An integer in sixty-four bits. -/
def fit (n : Int) (rest : List Char) : Option (Scalar × List Char) :=
  if -0x8000000000000000 ≤ n ∧ n < 0x8000000000000000 then some (.integer n, rest) else none

/-- An integer in a base, after its mark. -/
def integerIn (base : Nat) (cs : List Char) : Option (Scalar × List Char) := do
  let isDigit (c : Char) : Bool := (Text.Hex.digit? c).any (· < base)
  let (digits, rest) ← someDigits isDigit cs
  fit (digits.foldl (fun acc c => acc * base + (Text.Hex.digit? c).getD 0) 0) rest

/-- An integer. -/
def integer : Parse Scalar
  | '0' :: 'x' :: rest => integerIn 16 rest
  | '0' :: 'o' :: rest => integerIn 8 rest
  | '0' :: 'b' :: rest => integerIn 2 rest
  | cs => do
    let (negative, cs) := sign cs
    let (digits, rest) ← plainDigits cs
    let n : Int := valueOf digits
    fit (if negative then -n else n) rest

/-- The exponent of a double, after its letter. -/
def exponent (cs : List Char) : Option (Int × List Char) := do
  let (negative, cs) := sign cs
  let (digits, rest) ← someDigits Char.isDigit cs
  let n : Int := valueOf digits
  return (if negative then -n else n, rest)

/-- The exponent at the front, if there is one. -/
def exponent? : List Char → Option (Option Int × List Char)
  | 'e' :: rest => (exponent rest).map fun (n, rest) => (some n, rest)
  | 'E' :: rest => (exponent rest).map fun (n, rest) => (some n, rest)
  | cs => some (none, cs)

/-- The nearest double to decimal digits scaled by a power of ten. -/
def scaled (negative : Bool) (significand : Nat) (exponent : Int) : Binary64 :=
  let digits : Int := (Nat.toDigits 10 significand).length
  if significand = 0 ∨ digits + exponent < -400 then Binary64.ofMagnitude negative 0
  else if 400 < digits + exponent then Binary64.ofMagnitude negative Binary64.infiniteMagnitude
  else
    Binary64.ofRatio negative (significand * Nat.pow 10 exponent.toNat)
      (Nat.pow 10 (-exponent).toNat)

/-- A double that is written with a point or an exponent; one beyond the range is refused unless
    it is negative. -/
def pointed (cs : List Char) : Option (Scalar × List Char) := do
  let (negative, cs) := sign cs
  let (whole, cs) ← plainDigits cs
  let (fraction, power, rest) ← match cs with
    | '.' :: cs => do
      let (fraction, cs) ← someDigits Char.isDigit cs
      let (power, rest) ← exponent? cs
      some (fraction, power, rest)
    | cs => do
      let (power, rest) ← exponent? cs
      if power.isNone then none else some ([], power, rest)
  let x := scaled negative (valueOf (whole ++ fraction)) (power.getD 0 - fraction.length)
  if x.isFinite ∨ negative then some (.float x, rest) else none

/-- A double that has no digits. -/
def special (cs : List Char) : Option (Scalar × List Char) :=
  let (negative, body) := sign cs
  match body with
  | 'i' :: 'n' :: 'f' :: rest =>
    some (.float (Binary64.ofMagnitude negative Binary64.infiniteMagnitude), rest)
  | 'n' :: 'a' :: 'n' :: rest =>
    some (.float (if negative then -Binary64.nan else Binary64.nan), rest)
  | _ => none

/-- A number of exactly two digits within bounds. -/
def twoDigits (low high : Nat) : Parse Nat
  | a :: b :: rest =>
    let n := valueOf [a, b]
    if a.isDigit ∧ b.isDigit ∧ low ≤ n ∧ n ≤ high then some (n, rest) else none
  | _ => none

/-- The character that has to come next. -/
def expect (c : Char) : Parse Unit
  | d :: rest => if c = d then some ((), rest) else none
  | [] => none

/-- How many days a month has. -/
def daysIn (year month : Nat) : Nat :=
  if month = 2 then
    if (year % 4 = 0 ∧ year % 100 ≠ 0) ∨ year % 400 = 0 then 29 else 28
  else if month = 4 ∨ month = 6 ∨ month = 9 ∨ month = 11 then 30
  else 31

/-- Month and day of a date, after its year and a dash. -/
def monthAndDay (year : Nat) (cs : List Char) : Option (Unit × List Char) := do
  let (month, cs) ← twoDigits 1 12 cs
  let ((), cs) ← expect '-' cs
  let (day, cs) ← twoDigits 1 31 cs
  if day ≤ daysIn year month then some ((), cs) else none

/-- Minutes and seconds of a time, after its hour and a colon. -/
def minutes (cs : List Char) : Option (Unit × List Char) := do
  let (_, cs) ← twoDigits 0 59 cs
  let ((), cs) ← expect ':' cs
  let (_, cs) ← twoDigits 0 60 cs
  match cs with
  | '.' :: c :: rest => if c.isDigit then some ((), rest.dropWhile Char.isDigit) else none
  | ['.'] => none
  | cs => some ((), cs)

/-- Whether a time starts here, and what follows its first colon. -/
def startsTime (cs : List Char) : Option (List Char) :=
  match twoDigits 0 23 cs with
  | some (_, ':' :: rest) => some rest
  | _ => none

/-- The offset of a time, if there is one. -/
def offset : Parse Unit
  | 'Z' :: rest => some ((), rest)
  | 'z' :: rest => some ((), rest)
  | '+' :: rest => hours rest
  | '-' :: rest => hours rest
  | cs => some ((), cs)
where
  hours (cs : List Char) : Option (Unit × List Char) := do
    let (_, cs) ← twoDigits 0 23 cs
    let ((), cs) ← expect ':' cs
    let (_, cs) ← twoDigits 0 59 cs
    return ((), cs)

/-- The time after a date, if there is one. -/
def timeAfterDate (cs : List Char) : Option (Unit × List Char) :=
  match cs with
  | c :: rest =>
    if c = 'T' ∨ c = 't' ∨ c = ' ' then
      match startsTime rest with
      | some rest => do
        let ((), cs) ← minutes rest
        offset cs
      | none => some ((), cs)
    else some ((), cs)
  | [] => some ((), cs)

/-- What is read of a date or time that starts here; `none` inside if none starts here. -/
def moment (cs : List Char) : Option (Option (List Char)) :=
  match cs with
  | a :: b :: c :: d :: '-' :: rest =>
    if [a, b, c, d].all Char.isDigit then do
      let ((), cs) ← monthAndDay (valueOf [a, b, c, d]) rest
      let ((), cs) ← timeAfterDate cs
      return some cs
    else some none
  | _ =>
    match startsTime cs with
    | some rest => do
      let ((), cs) ← minutes rest
      return some cs
    | none => some none

/-- A number or date. -/
def scalar (cs : List Char) : Option (Scalar × List Char) := do
  match ← moment cs with
  | some rest => return (.moment (String.ofList (cs.take (cs.length - rest.length))), rest)
  | none => ((pointed cs).or (special cs)).or (integer cs)

end AssetOracle.Toml
