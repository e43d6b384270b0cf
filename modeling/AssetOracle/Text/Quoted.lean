import AssetOracle.Text.Blank
import AssetOracle.Text.Hex
import AssetOracle.Text.QuotedTable

/-!
# Quoted text

A text between double quotes, as messages show it: quotes, backslashes and the common control
characters are escaped by a backslash, everything else without a visible form of its own by its
code point.
-/

namespace AssetOracle.Text

/-- One character inside double quotes. -/
def quotedChar (c : Char) : List Char :=
  match c with
  | '"' => ['\\', '"']
  | '\\' => ['\\', '\\']
  | '\t' => ['\\', 't']
  | '\r' => ['\\', 'r']
  | '\n' => ['\\', 'n']
  | _ =>
    if c.toNat = 0 then ['\\', '0']
    else if inRanges invisibleRanges c.toNat then
      '\\' :: 'u' :: '\x7b' :: Hex.ofNat c.toNat ++ ['\x7d']
    else [c]

/-- A text in double quotes. -/
def quoted (s : String) : String :=
  String.ofList ('"' :: s.toList.flatMap quotedChar ++ ['"'])

/-- A list of texts in brackets, separated by commas. -/
def quotedList (xs : List String) : String :=
  "[" ++ ", ".intercalate (xs.map quoted) ++ "]"

end AssetOracle.Text
