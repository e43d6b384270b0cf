import AssetOracle.Document.Basic
import AssetOracle.Keyed

/-!
# JSON values

A `Json` value is a document that was kept: whole, without faults, and with the members of its
objects in ascending order of their names, each name once. `Document.keep` builds it, the last
of several members of one name winning, and `Json.toDocument` gives it back to a decoder.
-/

namespace AssetOracle

/-- A JSON value. -/
inductive Json where
  | null
  | bool (value : Bool)
  | number (value : Number)
  | text (value : String)
  | array (items : List Json)
  | object (members : List (String × Json))

namespace Json

/-- An integer. -/
def int (n : Int) : Json := .number (.integer n)

/-- A natural number. -/
def nat (n : Nat) : Json := .number (.integer n)

/-- An object with the given members, which are kept in the order of their names and not in the one
    in which they are given. -/
def ofMembers (members : List (String × Json)) : Json := .object (Keyed.ofList members)

/-- The member of an object under a name. -/
def get? (value : Json) (name : String) : Option Json :=
  match value with
  | .object members => Keyed.find? name members
  | _ => none

/-- The text that a value is. -/
def text? : Json → Option String
  | .text s => some s
  | _ => none

mutual

/-- The document of a value. -/
def toDocument : Json → Document
  | .null => .null
  | .bool b => .bool b
  | .number n => .number n
  | .text s => .text s
  | .array items => .array (itemDocuments items) none
  | .object members => .object (memberDocuments members) none

/-- The documents of items. -/
def itemDocuments : List Json → List Document
  | [] => []
  | item :: items => toDocument item :: itemDocuments items

/-- The documents of members. -/
def memberDocuments : List (String × Json) → List (Except Fault String × Document)
  | [] => []
  | (name, value) :: members => (.ok name, toDocument value) :: memberDocuments members

end

end Json

namespace Document

mutual

/-- A document as a JSON value, or the first fault in it. -/
def keep : Document → Except Fault Json
  | .null => .ok .null
  | .bool b => .ok (.bool b)
  | .number n => .ok (.number n)
  | .text s => .ok (.text s)
  | .array items cut => (keepList items cut).map .array
  | .object members cut => (keepObject [] members cut).map .object
  | .broken fault _ => .error fault

/-- Items as JSON values. -/
def keepList : List Document → Option Fault → Except Fault (List Json)
  | [], none => .ok []
  | [], some fault => .error fault
  | item :: items, cut => do
    let value ← keep item
    let values ← keepList items cut
    return value :: values

/-- Members as a table, put on top of an earlier table. -/
def keepObject (before : List (String × Json)) :
    List (Except Fault String × Document) → Option Fault → Except Fault (List (String × Json))
  | [], none => .ok before
  | [], some fault => .error fault
  | (.error fault, _) :: _, _ => .error fault
  | (.ok name, item) :: members, cut => do
    let value ← keep item
    keepObject (Keyed.put name value before) members cut

end

end Document

end AssetOracle
