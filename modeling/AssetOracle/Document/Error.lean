import AssetOracle.Document.Basic
import AssetOracle.Json.Printer
import AssetOracle.Text.Quoted

/-!
# Decoding errors

Why a document is not a value of the wanted type. A document may be unreadable at the place where
the decoder stands, or well formed but of another shape; the second kind carries the path to the
place and the reason, and `Mismatch.message` words the reason.
-/

namespace AssetOracle

open Decimal (Binary64 NumberStyle)

/-- Where a document comes from, as far as decoding and its messages depend on it. -/
inductive Dialect where
  | jsonText
  | jsonValue
  | toml
deriving DecidableEq

/-- How a configuration file's doubles are shown: never with an exponent. -/
def tomlNumberStyle : NumberStyle where
  positionalFrom := none
  positionalTo := none
  exponentDigits := 1
  infinite := "inf"
  notANumber := "NaN"

/-- The text of a double in messages. -/
def Dialect.floatText (dialect : Dialect) (x : Binary64) : String :=
  match dialect with
  | .toml => tomlNumberStyle.render x
  | _ => Json.numberStyle.render x

/-- What was found where something else was wanted. -/
inductive Found where
  | null
  | bool (value : Bool)
  | integer (value : Int)
  | float (value : Binary64)
  | text (value : String)
  | sequence
  | map
deriving DecidableEq

/-- A reason why a well-formed document does not fit. -/
inductive Mismatch where
  | missingField (name : String)
  | duplicateField (name : String)
  | unknownVariant (name : String) (known : List String)
  | invalidType (found : Found) (wanted : String)
  | invalidValue (found : Found) (wanted : String)
  | invalidLength (length : Nat) (wanted : String)
  | noVariant (type : String)
  | noSingleKey (count : Nat)
  | noEmptyTable (kind : Option String)
  | noVariantName
deriving DecidableEq

/-- One step from a document to a part of it. -/
inductive Step where
  | member (name : String)
  | item (index : Nat)
deriving DecidableEq

/-- Why a document could not be decoded. -/
inductive DecodeError where
  | unreadable (fault : Fault)
  | mismatch (path : List Step) (reason : Mismatch)
deriving DecidableEq

/-- The words for what was found. -/
def Found.message (dialect : Dialect) : Found → String
  | .null => "null"
  | .bool b => "boolean `" ++ toString b ++ "`"
  | .integer n => "integer `" ++ toString n ++ "`"
  | .float x => "floating point `" ++ dialect.floatText x ++ "`"
  | .text s => "string " ++ Text.quoted s
  | .sequence => "sequence"
  | .map => "map"

/-- The words for a mismatch. -/
def Mismatch.message (dialect : Dialect) : Mismatch → String
  | .missingField name => "missing field `" ++ name ++ "`"
  | .duplicateField name => "duplicate field `" ++ name ++ "`"
  | .unknownVariant name known =>
    "unknown variant `" ++ name ++ "`, expected one of " ++
      ", ".intercalate (known.map fun k => "`" ++ k ++ "`")
  | .invalidType found wanted =>
    "invalid type: " ++ found.message dialect ++ ", expected " ++ wanted
  | .invalidValue found wanted =>
    "invalid value: " ++ found.message dialect ++ ", expected " ++ wanted
  | .invalidLength length wanted =>
    "invalid length " ++ toString length ++ ", expected " ++ wanted
  | .noVariant type => "data did not match any variant of untagged enum " ++ type
  | .noSingleKey count =>
    "wanted exactly 1 element, " ++
      if count = 0 then "found 0 elements" else "more than 1 element"
  | .noEmptyTable none => "expected empty table"
  | .noEmptyTable (some kind) => "expected table, found " ++ kind
  | .noVariantName => "wanted string or table"

/-- A step as it is written in a path. -/
def Step.message : Step → String
  | .member name => name
  | .item index => "[" ++ toString index ++ "]"

/-- A path as it is written before a mismatch. -/
def pathMessage (path : List Step) : String := ".".intercalate (path.map Step.message)

/-- The words for a document that does not fit. Text that cannot be read at all is described by
    its fault only. -/
def DecodeError.message (dialect : Dialect) : DecodeError → String
  | .unreadable .malformed => "malformed JSON"
  | .unreadable .truncated => "unexpected end of JSON"
  | .mismatch _ reason => reason.message dialect

/-- Puts a step in front of the path of an error. -/
def DecodeError.within (step : Step) : DecodeError → DecodeError
  | .mismatch path reason => .mismatch (step :: path) reason
  | .unreadable fault => .unreadable fault

end AssetOracle
