import AssetOracle.Decimal.Binary64

/-!
# Documents

A `Document` is structured data as a reader finds it: JSON text, a JSON value that was kept, or a
configuration file. Text can go wrong in the middle of a structure, so a document also says
where: a `broken` part, or an array or object that is `cut` off. What a decoder never looks at is
skipped under weaker rules than what it keeps, so a broken part has a fault for each use, and may
be fit for skipping although it cannot be kept.

A decoder walks the document from left to right and stops at the first thing it cannot use. That
is why a fault after a mismatch never hides the mismatch.
-/

namespace AssetOracle

open Decimal (Binary64)

/-- How text fails to be a document: something impossible stands in it, or it ends too early. -/
inductive Fault where
  | malformed
  | truncated
deriving DecidableEq, Repr

/-- A number: an integer if it is written as one and fits sixty-four bits, else a double. -/
inductive Number where
  | integer (value : Int)
  | float (value : Binary64)
deriving DecidableEq

/-- The nearest double to a number. -/
def Number.toBinary64 : Number → Binary64
  | .integer n => Binary64.ofInt n
  | .float x => x

/-- Structured data in reading order, with its faults in their places. -/
inductive Document where
  | null
  | bool (value : Bool)
  | number (value : Number)
  | text (value : String)
  | array (items : List Document) (cut : Option Fault)
  | object (members : List (Except Fault String × Document)) (cut : Option Fault)
  | broken (kept : Fault) (skipped : Option Fault)

namespace Document

mutual

/-- The fault that skipping a document runs into, if any. -/
def skipFault : Document → Option Fault
  | .array items cut => skipItems items cut
  | .object members cut => skipMembers members cut
  | .broken _ skipped => skipped
  | _ => none

/-- The first fault among items that are skipped. -/
def skipItems : List Document → Option Fault → Option Fault
  | [], cut => cut
  | item :: items, cut => (skipFault item).or (skipItems items cut)

/-- The first fault among members that are skipped. -/
def skipMembers : List (Except Fault String × Document) → Option Fault → Option Fault
  | [], cut => cut
  | (_, value) :: members, cut => (skipFault value).or (skipMembers members cut)

end

mutual

/-- The fault that keeping a whole document runs into, if any. -/
def keepFault : Document → Option Fault
  | .array items cut => keepItems items cut
  | .object members cut => keepMembers members cut
  | .broken kept _ => some kept
  | _ => none

/-- The first fault among items that are kept. -/
def keepItems : List Document → Option Fault → Option Fault
  | [], cut => cut
  | item :: items, cut => (keepFault item).or (keepItems items cut)

/-- The first fault among members that are kept. -/
def keepMembers : List (Except Fault String × Document) → Option Fault → Option Fault
  | [], cut => cut
  | (.error fault, _) :: _, _ => some fault
  | (.ok _, value) :: members, cut => (keepFault value).or (keepMembers members cut)

end

/-- A whole array. -/
def list (items : List Document) : Document := .array items none

/-- A whole object. -/
def record (members : List (String × Document)) : Document :=
  .object (members.map fun (name, value) => (.ok name, value)) none

end Document

end AssetOracle
