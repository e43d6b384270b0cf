import AssetOracle.Evm.Keccak
import AssetOracle.Text.Hex
import AssetOracle.Text.Quoted
import AssetOracle.Text.Utf8

/-!
# Addresses and hashes

Byte strings of a fixed length, written as hexadecimal digits after an optional `0x` or `0X`.
Addresses are twenty bytes and are printed in mixed case, where the case of a letter is a bit of a
checksum; hashes are thirty-two bytes and are printed in lower case. Reading ignores the case of
letters.
-/

namespace AssetOracle.Evm

/-- A byte string of a fixed length. -/
structure FixedBytes (size : Nat) where
  bytes : List UInt8
  length_bytes : bytes.length = size
deriving DecidableEq

/-- An account or contract. -/
abbrev Address := FixedBytes 20

/-- The hash of a block or transaction. -/
abbrev Hash := FixedBytes 32

/-- Why a text is no byte string of the wanted length. -/
inductive HexError where
  | oddLength
  | wrongLength
  | badDigit (digit : Char) (position : Nat)
deriving DecidableEq

/-- A character between single quotes. -/
def quotedDigit (c : Char) : String :=
  let body := if c = '\x27' then ['\\', c] else if c = '"' then [c] else Text.quotedChar c
  String.ofList ('\x27' :: body ++ ['\x27'])

/-- The words for a text that is no byte string. -/
def HexError.message : HexError → String
  | .oddLength => "odd number of digits"
  | .wrongLength => "invalid string length"
  | .badDigit digit position =>
    "invalid character " ++ quotedDigit digit ++ " at position " ++ toString position

/-- The bytes of a text without the `0x` at its beginning, whose letter may be a capital. -/
def dropMark : List UInt8 → List UInt8
  | 0x30 :: 0x78 :: rest => rest
  | 0x30 :: 0x58 :: rest => rest
  | bytes => bytes

/-- A byte as the character of its value. -/
def asChar (b : UInt8) : Char := Char.ofNat b.toNat

/-- Reads digits in pairs, from a position on. -/
def readPairs (position : Nat) : List UInt8 → Except HexError (List UInt8)
  | [] => .ok []
  | [_] => .error .oddLength
  | high :: low :: rest =>
    match Text.Hex.digit? (asChar high), Text.Hex.digit? (asChar low) with
    | none, _ => .error (.badDigit (asChar high) position)
    | _, none => .error (.badDigit (asChar low) (position + 1))
    | some h, some l => do
      let bytes ← readPairs (position + 2) rest
      return UInt8.ofNat (16 * h + l) :: bytes

theorem length_readPairs {position : Nat} {digits bytes : List UInt8}
    (h : readPairs position digits = .ok bytes) : 2 * bytes.length = digits.length := by
  fun_induction readPairs position digits generalizing bytes with
  | case1 => cases h; rfl
  | case2 => cases h
  | case3 => cases h
  | case4 => cases h
  | case5 position high low rest _ _ _ _ ih =>
    cases hr : readPairs (position + 2) rest with
    | error e => rw [hr] at h; cases h
    | ok tail =>
      rw [hr] at h
      cases h
      have := ih hr
      simp only [List.length_cons]
      omega

namespace FixedBytes

variable {size : Nat}

/-- Reads a byte string. An odd number of digits is reported before a wrong one, and that before
    a character that is no digit. -/
def parse (size : Nat) (s : String) : Except HexError (FixedBytes size) :=
  let digits := dropMark (Text.Utf8.encode s)
  if digits.length % 2 = 1 then .error .oddLength
  else if hsize : digits.length = 2 * size then
    match h : readPairs 0 digits with
    | .ok bytes => .ok ⟨bytes, by have := length_readPairs h; omega⟩
    | .error e => .error e
  else .error .wrongLength

/-- The digits in lower case. -/
def digits (x : FixedBytes size) : List Char := Text.Hex.encodeBytes x.bytes

/-- The digits in lower case after `0x`. -/
def render (x : FixedBytes size) : String := String.ofList ('0' :: 'x' :: x.digits)

/-- The first `size` bytes of a list, filled up with zeros. -/
def ofList (size : Nat) (bytes : List UInt8) : FixedBytes size :=
  ⟨(bytes ++ List.replicate size 0).take size, by simp⟩

end FixedBytes

namespace Address

/-- A digit in the case that a half byte of the checksum asks for. -/
def caseDigit (digit : Char) (check : Nat) : Char := if 8 ≤ check then digit.toUpper else digit

/-- The half bytes of a byte list. -/
def halves (bytes : List UInt8) : List Nat :=
  bytes.flatMap fun b => [b.toNat / 16, b.toNat % 16]

/-- The address in mixed case: a letter is a capital if the half byte at its place in the hash of
    the lower-case digits is eight or more. -/
def render (address : Address) : String :=
  let digits := address.digits
  let check := halves (Keccak.digest (digits.map fun c => UInt8.ofNat c.toNat))
  String.ofList ('0' :: 'x' :: List.zipWith caseDigit digits check)

/-- Reads an address. -/
def parse (s : String) : Except HexError Address := FixedBytes.parse 20 s

end Address

end AssetOracle.Evm
