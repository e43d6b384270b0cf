import AssetOracle.Text.Hex
import AssetOracle.Text.Utf8

/-!
# Percent encoding

A percent sign and two hexadecimal digits stand for a byte. Decoding keeps a percent sign that
two digits do not follow; encoding replaces the characters that a predicate selects and every
character outside ASCII.
-/

namespace AssetOracle.Text.Percent

/-- Replaces the escapes in a byte list. -/
def decodeBytes : List UInt8 → List UInt8
  | [] => []
  | b :: rest =>
    if b = 0x25 then
      match rest with
      | high :: low :: more =>
        match Hex.digit? (Char.ofNat high.toNat), Hex.digit? (Char.ofNat low.toNat) with
        | some h, some l => UInt8.ofNat (16 * h + l) :: decodeBytes more
        | _, _ => b :: decodeBytes (high :: low :: more)
      | short => b :: decodeBytes short
    else b :: decodeBytes rest

/-- The bytes of a text after its escapes are replaced. -/
def decode (s : String) : List UInt8 := decodeBytes (Utf8.encode s)

/-- The escape of a byte. -/
def escape (b : UInt8) : List Char :=
  ['%', Hex.upperDigit (b.toNat / 16), Hex.upperDigit (b.toNat % 16)]

/-- Escapes the bytes of the characters selected by `escaped` and of those outside ASCII. -/
def encodeChars (escaped : Char → Bool) (cs : List Char) : List Char :=
  cs.flatMap fun c =>
    if c.toNat < 128 ∧ escaped c = false then [c]
    else (Utf8.encode (String.ofList [c])).flatMap escape

end AssetOracle.Text.Percent
