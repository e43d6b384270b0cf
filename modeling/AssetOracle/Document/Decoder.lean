import AssetOracle.Document.Error

/-!
# Decoders

A `Decoder` turns a document into a value. The basic decoders are for texts, numbers, lists and
optional values; `record` is for structures, of which a `Field` says the name, the type and what
is meant if it is left out. A structure may be given as an object, whose members may come in any
order, or as an array of its fields in order.
-/

namespace AssetOracle

open Decimal (Binary64)

/-- Turns a document into a value, stopping at the first part that does not fit. -/
abbrev Decoder (α : Type) := Dialect → Document → Except DecodeError α

namespace Decoder

variable {α β : Type}

/-- The decoder that goes on with the value of another. -/
def map (f : α → β) (decode : Decoder α) : Decoder β := fun dialect d => (decode dialect d).map f

/-- What a document is, for a message; a broken one cannot be named. -/
def found : Document → Except Fault Found
  | .null => .ok .null
  | .bool b => .ok (.bool b)
  | .number (.integer n) => .ok (.integer n)
  | .number (.float x) => .ok (.float x)
  | .text s => .ok (.text s)
  | .array .. => .ok .sequence
  | .object .. => .ok .map
  | .broken fault _ => .error fault

/-- Fails on a document of another type than the wanted one. -/
def unexpected (wanted : String) (d : Document) : Except DecodeError α :=
  match found d with
  | .ok f => .error (.mismatch [] (.invalidType f wanted))
  | .error fault => .error (.unreadable fault)

/-- A text. -/
def text : Decoder String
  | _, .text s => .ok s
  | _, d => unexpected "a string" d

/-- A truth value. -/
def bool : Decoder Bool
  | _, .bool b => .ok b
  | _, d => unexpected "a boolean" d

/-- An integer from `low` to `high`. -/
def integer (low high : Int) (wanted : String) : Decoder Int
  | _, .number (.integer n) =>
    if low ≤ n ∧ n ≤ high then .ok n
    else .error (.mismatch [] (.invalidValue (.integer n) wanted))
  | _, d => unexpected wanted d

/-- A natural number of sixty-four bits. -/
def word : Decoder UInt64 :=
  map (fun n => UInt64.ofNat n.toNat) (integer 0 0xFFFFFFFFFFFFFFFF "u64")

/-- A position in a list. -/
def index : Decoder Nat := map Int.toNat (integer 0 0xFFFFFFFFFFFFFFFF "usize")

/-- A natural number of sixteen bits. -/
def short : Decoder UInt16 := map (fun n => UInt16.ofNat n.toNat) (integer 0 0xFFFF "u16")

/-- A signed integer of sixty-four bits. -/
def signed : Decoder Int := integer (-0x8000000000000000) 0x7FFFFFFFFFFFFFFF "i64"

/-- A double, which may be written as an integer. -/
def double : Decoder Binary64
  | _, .number n => .ok n.toBinary64
  | _, d => unexpected "f64" d

/-- A value that may be null. -/
def optional (decode : Decoder α) : Decoder (Option α)
  | _, .null => .ok none
  | dialect, d => (decode dialect d).map some

/-- The items of a list from position `i` on. -/
def items (decode : Decoder α) (dialect : Dialect) (cut : Option Fault) (i : Nat) :
    List Document → Except DecodeError (List α)
  | [] =>
    match cut with
    | some fault => .error (.unreadable fault)
    | none => .ok []
  | d :: ds => do
    let x ← (decode dialect d).mapError (.within (.item i))
    let xs ← items decode dialect cut (i + 1) ds
    return x :: xs

/-- A list. -/
def list (decode : Decoder α) : Decoder (List α)
  | dialect, .array ds cut => items decode dialect cut 0 ds
  | _, d => unexpected "a sequence" d

/-- Any value at all. -/
def any : Decoder Json := fun _ d => d.keep.mapError .unreadable

end Decoder

/-- A field of a structure: its name, how it is decoded, and its value if it is left out of an
    object or missing at the end of an array. -/
structure Field where
  name : String
  Carrier : Type
  decode : Decoder Carrier
  ifMissing : Option Carrier := none
  ifShort : Option Carrier := none

namespace Field

/-- A field that must be given. -/
def required {α : Type} (name : String) (decode : Decoder α) : Field :=
  ⟨name, α, decode, none, none⟩

/-- A field with a default value. -/
def withDefault {α : Type} (name : String) (decode : Decoder α) (value : α) : Field :=
  ⟨name, α, decode, some value, some value⟩

/-- A field that may be absent or null. -/
def optional {α : Type} (name : String) (decode : Decoder α) : Field :=
  withDefault name (Decoder.optional decode) none

/-- A field that may be null, or absent from an object, but not from an array. -/
def nullable {α : Type} (name : String) (decode : Decoder α) : Field :=
  ⟨name, Option α, Decoder.optional decode, some none, none⟩

end Field

/-- The values of fields, as far as they have been met. -/
def Slots : List Field → Type
  | [] => Unit
  | f :: fs => Option f.Carrier × Slots fs

/-- A value for every field. -/
def Row : List Field → Type
  | [] => Unit
  | f :: fs => f.Carrier × Row fs

namespace Slots

/-- No field has been met. -/
def empty : (fields : List Field) → Slots fields
  | [] => ()
  | _ :: fs => (none, empty fs)

/-- Meets the field of a name; `none` if there is no such field. -/
def meet (dialect : Dialect) (name : String) (d : Document) :
    (fields : List Field) → Slots fields → Option (Except DecodeError (Slots fields))
  | [], _ => none
  | f :: fs, (slot, rest) =>
    if f.name = name then
      match slot with
      | some _ => some (.error (.mismatch [] (.duplicateField name)))
      | none =>
        some (((f.decode dialect d).mapError (.within (.member name))).map
          fun value => (some value, rest))
    else (meet dialect name d fs rest).map (·.map fun rest => (slot, rest))

/-- The values of all fields; the first one in order that is missing is reported. -/
def complete : (fields : List Field) → Slots fields → Except DecodeError (Row fields)
  | [], _ => .ok ()
  | f :: fs, (slot, rest) => do
    let value ← match slot.or f.ifMissing with
      | some value => .ok value
      | none => .error (.mismatch [] (.missingField f.name))
    let row ← complete fs rest
    return (value, row)

end Slots

namespace Decoder

variable {α : Type}

/-- Goes through the members of an object. Members of other names are skipped. -/
def members (fields : List Field) (dialect : Dialect) (cut : Option Fault) :
    List (Except Fault String × Document) → Slots fields → Except DecodeError (Slots fields)
  | [], slots =>
    match cut with
    | some fault => .error (.unreadable fault)
    | none => .ok slots
  | (.error fault, _) :: _, _ => .error (.unreadable fault)
  | (.ok name, d) :: rest, slots =>
    match slots.meet dialect name d fields with
    | some result => do
      let slots ← result
      members fields dialect cut rest slots
    | none =>
      match d.skipFault with
      | some fault => .error (.unreadable fault)
      | none => members fields dialect cut rest slots

/-- A structure given as an object. -/
def recordOfMembers (fields : List Field) (dialect : Dialect)
    (ms : List (Except Fault String × Document)) (cut : Option Fault) :
    Except DecodeError (Row fields) := do
  let slots ← members fields dialect cut ms (Slots.empty fields)
  slots.complete fields

/-- The length that an array of fields should have had. -/
def wantedLength (name : String) (count : Nat) : String :=
  "struct " ++ name ++ " with " ++ toString count ++ if count = 1 then " element" else " elements"

/-- The fields of a structure from position `i` on, given as items, and the items after them. -/
def row (tooShort : Nat → Mismatch) (dialect : Dialect) (cut : Option Fault) (i : Nat) :
    (fields : List Field) → List Document → Except DecodeError (Row fields × List Document)
  | [], ds => .ok ((), ds)
  | f :: fs, d :: ds => do
    let value ← (f.decode dialect d).mapError (.within (.item i))
    let (rest, ds) ← row tooShort dialect cut (i + 1) fs ds
    return ((value, rest), ds)
  | f :: fs, [] =>
    match cut, f.ifShort with
    | some fault, _ => .error (.unreadable fault)
    | none, none => .error (.mismatch [] (tooShort i))
    | none, some value => do
      let (rest, ds) ← row tooShort dialect cut (i + 1) fs []
      return ((value, rest), ds)

/-- A structure given as an array. Text with more items than fields is malformed, a value with
    more items has the wrong length, and a configuration file may have more. -/
def recordOfItems (name : String) (fields : List Field) (dialect : Dialect) (ds : List Document)
    (cut : Option Fault) : Except DecodeError (Row fields) := do
  let tooShort i := Mismatch.invalidLength i (wantedLength name fields.length)
  let (values, surplus) ← row tooShort dialect cut 0 fields ds
  match surplus, cut with
  | [], none => return values
  | [], some fault => throw (.unreadable fault)
  | _ :: _, _ =>
    match dialect with
    | .jsonText => throw (.unreadable .malformed)
    | .jsonValue => throw (.mismatch [] (.invalidLength ds.length "fewer elements in array"))
    | .toml => return values

/-- A structure. -/
def record (name : String) (fields : List Field) : Decoder (Row fields)
  | dialect, .object ms cut => recordOfMembers fields dialect ms cut
  | dialect, .array ds cut => recordOfItems name fields dialect ds cut
  | _, d => unexpected ("struct " ++ name) d

/-- Looks a variant's name up. -/
def variantNamed (variants : List (String × α)) (name : String) : Except DecodeError α :=
  match variants.lookup name with
  | some x => .ok x
  | none => .error (.mismatch [] (.unknownVariant name (variants.map (·.1))))

/-- The content of a variant that has none. -/
def unitContent (dialect : Dialect) (d : Document) : Except DecodeError Unit :=
  match dialect, d with
  | .toml, .array [] _ => .ok ()
  | .toml, .object [] _ => .ok ()
  | .toml, .array .. => .error (.mismatch [] (.noEmptyTable none))
  | .toml, .object .. => .error (.mismatch [] (.noEmptyTable none))
  | .toml, .text _ => .error (.mismatch [] (.noEmptyTable (some "string")))
  | .toml, .bool _ => .error (.mismatch [] (.noEmptyTable (some "boolean")))
  | .toml, .number (.integer _) => .error (.mismatch [] (.noEmptyTable (some "integer")))
  | .toml, .number (.float _) => .error (.mismatch [] (.noEmptyTable (some "float")))
  | _, .null => .ok ()
  | _, d => unexpected "unit" d

/-- Fails on a document that names no variant. -/
def noVariant (dialect : Dialect) (d : Document) : Except DecodeError α :=
  match dialect with
  | .toml => .error (.mismatch [] .noVariantName)
  | .jsonValue => unexpected "string or map" d
  | .jsonText =>
    match d with
    | .broken fault _ => .error (.unreadable fault)
    | _ => .error (.unreadable .malformed)

/-- Fails on an object that has not exactly one member. -/
def noSingleMember (dialect : Dialect) (count : Nat) (cut : Option Fault) :
    Except DecodeError α :=
  match dialect with
  | .toml => .error (.mismatch [] (.noSingleKey count))
  | .jsonValue => .error (.mismatch [] (.invalidValue .map "map with a single key"))
  | .jsonText => .error (.unreadable (cut.getD .malformed))

/-- One of several names, alone or as the only key of an object with nothing under it. Text is
    looked at up to the value of the first member before further members are noticed. -/
def variant (variants : List (String × α)) : Decoder α
  | _, .text name => variantNamed variants name
  | dialect, .object [] cut => noSingleMember dialect 0 cut
  | dialect, .object ((name, d) :: rest) cut => do
    if dialect ≠ .jsonText ∧ rest.isEmpty = false then noSingleMember dialect (rest.length + 1) cut
    else
      let name ← name.mapError .unreadable
      let value ← variantNamed variants name
      unitContent dialect d
      match rest, cut with
      | [], none => return value
      | [], some fault => throw (.unreadable fault)
      | _ :: _, _ => throw (.unreadable .malformed)
  | dialect, d => noVariant dialect d

end Decoder

end AssetOracle
