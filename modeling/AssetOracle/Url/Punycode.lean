/-!
# Punycode

Text outside ASCII as ASCII letters and digits, which is how domain labels carry it. The
characters outside ASCII are given in ascending order as differences, each in a variable-length
number of base 36 whose digit thresholds adapt to the differences seen so far.
-/

namespace AssetOracle.Url.Punycode

/-- The digit of a value below 36. -/
def digit (n : Nat) : Char := if n < 26 then Char.ofNat (97 + n) else Char.ofNat (22 + n)

/-- The value of a digit. -/
def value? (c : Char) : Option Nat :=
  if 'a' ≤ c ∧ c ≤ 'z' then some (c.toNat - 97)
  else if 'A' ≤ c ∧ c ≤ 'Z' then some (c.toNat - 65)
  else if c.isDigit then some (c.toNat - 22)
  else none

/-- The threshold of the digit at a position, which grows by 36 a digit. -/
def threshold (position bias : Nat) : Nat := max 1 (min 26 (position - bias))

/-- Divides by 35 while a difference is large, counting 36 for each division. -/
def adaptSteps (delta count : Nat) : Nat × Nat :=
  if h : 455 < delta then adaptSteps (delta / 35) (count + 36) else (delta, count)
termination_by delta

/-- The bias after a difference. -/
def adapt (delta points : Nat) (first : Bool) : Nat :=
  let delta := if first then delta / 700 else delta / 2
  let (delta, count) := adaptSteps (delta + delta / points) 0
  count + 36 * delta / (delta + 38)

/-- A difference in digits. -/
def encodeNumber (bias : Nat) : (steps position n : Nat) → List Char
  | 0, _, _ => []
  | steps + 1, position, n =>
    let t := threshold position bias
    if n < t then [digit n]
    else
      digit (t + (n - t) % (36 - t)) ::
        encodeNumber bias steps (position + 36) ((n - t) / (36 - t))

/-- The state of an encoding: what is written, the current difference, the bias, and how many
    characters have been handled. -/
structure State where
  out : List Char
  delta : Nat
  bias : Nat
  handled : Nat

/-- One pass over the input for the code point `code`. -/
def pass (basic code : Nat) (input : List Nat) (s : State) : State :=
  input.foldl (fun s c =>
    if c < code then { s with delta := s.delta + 1 }
    else if c = code then
      { out := s.out ++ encodeNumber s.bias 40 36 s.delta
        delta := 0
        bias := adapt s.delta (s.handled + 1) (s.handled = basic)
        handled := s.handled + 1 }
    else s) s

/-- Encodes a label that holds characters outside ASCII. -/
def encode (label : List Char) : List Char :=
  let input := label.map Char.toNat
  let plain := label.filter fun c => c.toNat < 128
  let codes := (input.filter (128 ≤ ·)).mergeSort.eraseDups
  let start : State := ⟨if plain.isEmpty then [] else plain ++ ['-'], 0, 72, plain.length⟩
  let (final, _) := codes.foldl (fun (s, next) code =>
    let s := pass plain.length code input
      { s with delta := s.delta + (code - next) * (s.handled + 1) }
    ({ s with delta := s.delta + 1 }, code + 1)) (start, 128)
  final.out

/-- A number in digits, and the digits after it. -/
def decodeNumber (bias : Nat) (acc weight position : Nat) :
    List Char → Option (Nat × List Char)
  | [] => none
  | c :: rest => do
    let d ← value? c
    let t := threshold position bias
    let acc := acc + d * weight
    if d < t then some (acc, rest)
    else decodeNumber bias acc (weight * (36 - t)) (position + 36) rest

/-- Inserts the characters that a list of digits stands for. -/
def decodeSteps (out : List Nat) (code index bias : Nat) (digits : List Char) :
    (steps : Nat) → Option (List Nat)
  | 0 => some out
  | steps + 1 =>
    if digits.isEmpty then some out
    else do
      let (delta, rest) ← decodeNumber bias 0 1 36 digits
      let size := out.length + 1
      let code := code + (index + delta) / size
      let place := (index + delta) % size
      if 0x10FFFF < code ∨ (0xD800 ≤ code ∧ code ≤ 0xDFFF) then none
      else
        decodeSteps (out.take place ++ code :: out.drop place) code (place + 1)
          (adapt delta size (index = 0)) rest steps

/-- Decodes a label. -/
def decode? (label : List Char) : Option (List Char) := do
  let reversed := label.reverse
  let (plain, digits) := match reversed.dropWhile (· ≠ '-') with
    | [] => ([], label)
    | _ :: before => (before.reverse, (reversed.takeWhile (· ≠ '-')).reverse)
  let codes ← decodeSteps (plain.map Char.toNat) 128 0 72 digits digits.length
  return codes.map Char.ofNat

end AssetOracle.Url.Punycode
