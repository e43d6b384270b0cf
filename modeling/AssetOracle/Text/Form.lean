import AssetOracle.Text.Percent

/-!
# Form encoding

The query of a URL as a list of names and values: pairs are divided by `&`, a name ends at the
first `=`, a plus sign stands for a space, and escapes stand for bytes. Empty pairs are left out,
and every text can be read.
-/

namespace AssetOracle.Text.Form

/-- A part of a pair without its escapes. -/
def plain (cs : List Char) : String :=
  Utf8.decodeLossy (Percent.decode (String.ofList (cs.map fun c => if c = '+' then ' ' else c)))

/-- A pair, from the text between two `&`. -/
def pair (cs : List Char) : String × String :=
  (plain (cs.takeWhile (· ≠ '=')), plain ((cs.dropWhile (· ≠ '=')).drop 1))

/-- The texts between the `&` of a text. -/
def pieces : List Char → List (List Char)
  | [] => [[]]
  | c :: rest =>
    if c = '&' then [] :: pieces rest
    else
      match pieces rest with
      | [] => [[c]]
      | first :: more => (c :: first) :: more

/-- The pairs of a query, in order. -/
def pairs (s : String) : List (String × String) :=
  ((pieces s.toList).filter (!·.isEmpty)).map pair

end AssetOracle.Text.Form
