/-!
# White space

The characters of the Unicode property `White_Space`, and trimming by them. `trim` is
idempotent, and neither end of its result is blank.
-/

namespace AssetOracle.Text

/-- The white-space characters, as ranges of code points. -/
def blankRanges : List (Nat × Nat) :=
  [(0x9, 0xD), (0x20, 0x20), (0x85, 0x85), (0xA0, 0xA0), (0x1680, 0x1680), (0x2000, 0x200A),
    (0x2028, 0x2029), (0x202F, 0x202F), (0x205F, 0x205F), (0x3000, 0x3000)]

/-- Whether a code point lies in one of the ranges. -/
def inRanges (ranges : List (Nat × Nat)) (code : Nat) : Bool :=
  ranges.any fun (first, last) => first ≤ code && code ≤ last

/-- Whether a character is white space. -/
def isBlank (c : Char) : Bool := inRanges blankRanges c.toNat

/-- A list without the white space at its end. -/
def trimEnd (cs : List Char) : List Char := (cs.reverse.dropWhile isBlank).reverse

/-- A list without the white space at its beginning and end. -/
def trimChars (cs : List Char) : List Char := trimEnd (cs.dropWhile isBlank)

/-- A text without the white space around it. -/
def trim (s : String) : String := String.ofList (trimChars s.toList)

/-- A letter in lower case if it is one of `A` to `Z`. -/
def lowerAscii (c : Char) : Char := if c.isUpper then Char.ofNat (c.toNat + 32) else c

/-- Equality up to the case of the letters `A` to `Z`. -/
def equalsIgnoringCase (s t : String) : Bool :=
  s.toList.map lowerAscii = t.toList.map lowerAscii

end AssetOracle.Text
