import AssetOracle.Text.Blank
import AssetOracle.Text.LowercaseTable

/-!
# Lower case

The lower-case form of a text under the Unicode rules that need no language: each character by
its mapping, the dotted capital I by two characters, and a capital sigma by its final form where
it ends a word. `lowercase` is the key function of every look-up by asset id.
-/

namespace AssetOracle.Text

/-- The code point that a table of mappings gives. -/
def mapCode (ranges : List (Nat × Nat × Nat × Nat)) (code : Nat) : Nat :=
  match ranges.find? fun (first, last, stride, _) =>
    first ≤ code && code ≤ last && (code - first) % stride = 0 with
  | some (first, _, _, form) => form + (code - first)
  | none => code

/-- The lower-case form of a character on its own. -/
def lowerChar (c : Char) : List Char :=
  if c.toNat < 128 then [lowerAscii c]
  else if c.toNat = 0x130 then ['i', Char.ofNat 0x307]
  else [Char.ofNat (mapCode lowercaseRanges c.toNat)]

/-- Whether the first character that case context does not pass over is cased. -/
def meetsCased (cs : List Char) : Bool :=
  match cs.dropWhile fun c => inRanges caseIgnorableRanges c.toNat with
  | [] => false
  | c :: _ => inRanges casedRanges c.toNat

/-- The lower-case form of the characters after `before`, which is given from its end. -/
def lowerAfter (before : List Char) : List Char → List Char
  | [] => []
  | c :: rest =>
    let form :=
      if c.toNat = 0x3A3 then
        [Char.ofNat (if meetsCased before && !meetsCased rest then 0x3C2 else 0x3C3)]
      else lowerChar c
    form ++ lowerAfter (c :: before) rest

/-- The lower-case form of a text. -/
def lowercase (s : String) : String := String.ofList (lowerAfter [] s.toList)

end AssetOracle.Text
