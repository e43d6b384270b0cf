import AssetOracle.Net.Address
import AssetOracle.Text.Lowercase
import AssetOracle.Text.Percent
import AssetOracle.Url.DomainTable
import AssetOracle.Url.Punycode

/-!
# Domain names

The ASCII form of a domain name, which is what a URL holds. Characters are mapped to their lower
case and to ASCII where they are forms of it; a label that still holds others is written in
Punycode after `xn--`, and a label given that way has to hold what such a label may.
-/

namespace AssetOracle.Url.Domain

open Text (inRanges mapCode lowercaseRanges lowerAscii)

/-- Whether a character of ASCII ends or spoils a name. -/
def denied (c : Char) : Bool :=
  c.toNat ≤ 0x20 || c.toNat = 0x7F ||
    ['#', '%', '/', ':', '<', '>', '?', '@', '[', '\\', ']', '^', '`', '\x7b', '|',
      '\x7d'].contains c

/-- Whether a character is of ASCII. -/
def isAscii (c : Char) : Bool := c.toNat < 128

/-- What a character of a name stands for, `none` if it may not be there. -/
def mapChar (c : Char) : Option (List Char) :=
  if isAscii c then some [lowerAscii c]
  else if inRanges disallowedRanges c.toNat then none
  else if inRanges ignoredRanges c.toNat then some []
  else
    some [Char.ofNat (mapCode asciiFormRanges (mapCode lowercaseRanges c.toNat))]

/-- Whether a character is its own form, as the characters of an encoded label have to be. -/
def isStable (c : Char) : Bool := mapChar c = some [c]

/-- Whether a label starts with the mark of an encoded label. -/
def isEncoded (label : List Char) : Bool := label.take 4 = ['x', 'n', '-', '-']

/-- The ASCII form of a mapped label. -/
def labelToAscii? (label : List Char) : Option (List Char) :=
  if isEncoded label then
    if label.all isAscii then
      match Punycode.decode? (label.drop 4) with
      | some decoded =>
        if !decoded.all isAscii && decoded.all isStable then some label else none
      | none => none
    else none
  else if label.all isAscii then some label
  else some ("xn--".toList ++ Punycode.encode label)

/-- The ASCII form of a name. -/
def toAscii? (name : String) : Option (List Char) := do
  let mapped ← name.toList.mapM mapChar
  let labels ← (Net.splitOn '.' mapped.flatten).mapM labelToAscii?
  let ascii := ['.'].intercalate labels
  if ascii.any denied then none else some ascii

end AssetOracle.Url.Domain
