import AssetOracle.Text.Blank

/-!
# Media types

The value of a `Content-Type` header: a type, a slash and a subtype, and parameters after a
semicolon. What follows the last plus sign of a subtype is its suffix. Only the shape of the
parameters matters here, since all that is asked is whether a body is JSON.
-/

namespace AssetOracle.Http

/-- A type and a subtype in lower case; the suffix of the subtype stands apart. -/
structure MediaType where
  type : String
  subtype : String
  suffix : Option String
deriving DecidableEq, Repr

namespace MediaType

/-- Whether a character may occur in a type, a subtype, or the name of a parameter. -/
def isToken (c : Char) : Bool :=
  c.isAlphanum || "!#$%&\x27*+-.^_\x60|~".toList.contains c

/-- Whether a character may occur in a quoted value. -/
def isQuotable (c : Char) : Bool := 31 < c.toNat && c.toNat < 127

/-- A place among the parameters: in a name, in a value, or in a value between quotes, each with
    the number of its characters so far, or after the closing quote. -/
inductive Place where
  | name (length : Nat)
  | value (length : Nat)
  | quoted (length : Nat)
  | after

/-- Whether parameters are well formed from a place on. A list of them may end in a semicolon,
    blanks may stand before a name, and a quoted value is not empty. -/
def parametersFrom : Place → List Char → Bool
  | .name length, [] => length == 0
  | .value _, [] => true
  | .quoted _, [] => false
  | .after, [] => true
  | .name length, c :: rest =>
    if c = ' ' ∧ length = 0 then parametersFrom (.name 0) rest
    else if isToken c then parametersFrom (.name (length + 1)) rest
    else if c = '=' ∧ 0 < length then parametersFrom (.value 0) rest
    else false
  | .value length, c :: rest =>
    if c = '"' ∧ length = 0 then parametersFrom (.quoted 0) rest
    else if isToken c then parametersFrom (.value (length + 1)) rest
    else if c = ';' ∧ 0 < length then parametersFrom (.name 0) rest
    else false
  | .quoted length, c :: rest =>
    if c = '"' ∧ 0 < length then parametersFrom .after rest
    else if isQuotable c then parametersFrom (.quoted (length + 1)) rest
    else false
  | .after, c :: rest =>
    if c = ';' then parametersFrom (.name 0) rest
    else if c = ' ' then parametersFrom .after rest
    else false

/-- The text before the last plus sign that does not begin it, and the suffix after it. -/
def splitSuffix (cs : List Char) : List Char × Option (List Char) :=
  let tail := cs.reverse.takeWhile (· ≠ '+')
  let head := (cs.reverse.dropWhile (· ≠ '+')).drop 1
  if head.isEmpty then (cs, none) else (head.reverse, some tail.reverse)

/-- Characters in lower case as a text. -/
def lower (cs : List Char) : String := String.ofList (cs.map Text.lowerAscii)

/-- Reads a media type. -/
def parse? (s : String) : Option MediaType :=
  let (type, rest) := s.toList.span isToken
  match rest with
  | '/' :: rest =>
    let (name, rest) := rest.span isToken
    let (subtype, suffix) := splitSuffix name
    let found : MediaType := ⟨lower type, lower subtype, suffix.map lower⟩
    match rest with
    | [] => if type.isEmpty then none else some found
    | ';' :: parameters =>
      if type.isEmpty ∨ name.isEmpty ∨ parametersFrom (.name 0) parameters = false then none
      else some found
    | _ => none
  | _ => none

/-- Whether bodies of this type are JSON. -/
def isJson (m : MediaType) : Bool :=
  m.type = "application" && (m.subtype = "json" || m.suffix = some "json")

end MediaType

end AssetOracle.Http
