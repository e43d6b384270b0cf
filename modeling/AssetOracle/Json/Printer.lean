import AssetOracle.Decimal.Shortest
import AssetOracle.Json.Value
import AssetOracle.Text.Hex

/-!
# Printing JSON values

The compact form without white space, and the pretty form with one member or item per line.
Doubles are written with the fewest digits that read back.
-/

namespace AssetOracle.Json

open Decimal (NumberStyle digits)

/-- Doubles are positional for exponents from -5 to 15 and otherwise have an exponent with a sign
    and at least two digits. -/
def numberStyle : NumberStyle where
  positionalFrom := some (-5)
  positionalTo := some 15
  exponentDigits := 2
  infinite := "null"
  notANumber := "null"

/-- The text of a number. -/
def numberText : Number → String
  | .integer n => toString n
  | .float x => numberStyle.render x

/-- One character of a JSON string. -/
def escapedChar (c : Char) : List Char :=
  match c with
  | '"' => ['\\', '"']
  | '\\' => ['\\', '\\']
  | '\n' => ['\\', 'n']
  | '\r' => ['\\', 'r']
  | '\t' => ['\\', 't']
  | _ =>
    if c.toNat = 8 then ['\\', 'b']
    else if c.toNat = 12 then ['\\', 'f']
    else if c.toNat < 32 then
      ['\\', 'u', '0', '0', Text.Hex.digit (c.toNat / 16), Text.Hex.digit (c.toNat % 16)]
    else [c]

/-- A text as a JSON string. -/
def stringText (s : String) : String :=
  String.ofList ('"' :: s.toList.flatMap escapedChar ++ ['"'])

mutual

/-- The compact text of a value. -/
def compact : Json → String
  | .null => "null"
  | .bool b => if b then "true" else "false"
  | .number n => numberText n
  | .text s => stringText s
  | .array items => "[" ++ ",".intercalate (compactItems items) ++ "]"
  | .object members => "\x7b" ++ ",".intercalate (compactMembers members) ++ "\x7d"

/-- The compact texts of items. -/
def compactItems : List Json → List String
  | [] => []
  | item :: items => compact item :: compactItems items

/-- The compact texts of members. -/
def compactMembers : List (String × Json) → List String
  | [] => []
  | (name, value) :: members =>
    (stringText name ++ ":" ++ compact value) :: compactMembers members

end

/-- Lines between brackets, each indented one step further than the brackets. -/
def block (opening closing indent : String) (lines : List String) : String :=
  if lines.isEmpty then opening ++ closing
  else
    let inner := indent ++ "  "
    opening ++ "\n" ++ ",\n".intercalate (lines.map (inner ++ ·)) ++ "\n" ++ indent ++ closing

mutual

/-- The pretty text of a value whose first line is already indented. -/
def prettyFrom (indent : String) : Json → String
  | .array items => block "[" "]" indent (prettyItems (indent ++ "  ") items)
  | .object members => block "\x7b" "\x7d" indent (prettyMembers (indent ++ "  ") members)
  | .null => "null"
  | .bool b => if b then "true" else "false"
  | .number n => numberText n
  | .text s => stringText s

/-- The pretty texts of items. -/
def prettyItems (indent : String) : List Json → List String
  | [] => []
  | item :: items => prettyFrom indent item :: prettyItems indent items

/-- The pretty texts of members. -/
def prettyMembers (indent : String) : List (String × Json) → List String
  | [] => []
  | (name, value) :: members =>
    (stringText name ++ ": " ++ prettyFrom indent value) :: prettyMembers indent members

end

/-- The pretty text of a value. -/
def pretty (value : Json) : String := prettyFrom "" value

end AssetOracle.Json
