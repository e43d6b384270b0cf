/-!
# Hexadecimal digits

Digit values, and numbers and byte lists in base sixteen. `decodeBytes?` reads back what
`encodeBytes` writes.
-/

namespace AssetOracle.Text.Hex

/-- The value of a digit of either case. -/
def digit? (c : Char) : Option Nat :=
  if '0' ≤ c ∧ c ≤ '9' then some (c.toNat - '0'.toNat)
  else if 'a' ≤ c ∧ c ≤ 'f' then some (c.toNat - 'a'.toNat + 10)
  else if 'A' ≤ c ∧ c ≤ 'F' then some (c.toNat - 'A'.toNat + 10)
  else none

/-- The lower-case digit of a value below sixteen. -/
def digit (n : Nat) : Char := Nat.digitChar n

/-- The upper-case digit of a value below sixteen. -/
def upperDigit (n : Nat) : Char := (Nat.digitChar n).toUpper

/-- Two digits per byte. -/
def encodeBytes : List UInt8 → List Char
  | [] => []
  | b :: rest => digit (b.toNat / 16) :: digit (b.toNat % 16) :: encodeBytes rest

/-- Reads two digits per byte. -/
def decodeBytes? : List Char → Option (List UInt8)
  | [] => some []
  | [_] => none
  | high :: low :: rest => do
    let h ← digit? high
    let l ← digit? low
    let bytes ← decodeBytes? rest
    return UInt8.ofNat (16 * h + l) :: bytes

/-- The value of a digit list, most significant first. -/
def value? (cs : List Char) : Option Nat :=
  if cs.isEmpty then none
  else cs.foldlM (fun acc c => (digit? c).map (16 * acc + ·)) 0

/-- The digits of a number without zeros in front. -/
def ofNat (n : Nat) : List Char := Nat.toDigits 16 n

end AssetOracle.Text.Hex
