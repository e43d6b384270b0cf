import AssetOracle.Json.Literal
import AssetOracle.Text.Hex
import AssetOracle.Text.Utf8

/-!
# Reading JSON text

Bytes become a `Document`. Reading never fails: what is wrong with the text is recorded in the
document where it stands. Escapes that name half a character, bytes that are not UTF-8, numbers
beyond the range of doubles and nesting beyond `maxDepth` spoil a part only for keeping.
-/

namespace AssetOracle.Json

/-- How deep kept arrays and objects may be nested. -/
def maxDepth : Nat := 127

/-- What is left to read, or the fault at which reading ends. -/
abbrev Rest := Except Fault (List UInt8)

/-- The fault of a rest. -/
def Rest.fault? : Rest → Option Fault
  | .error fault => some fault
  | .ok _ => none

namespace Reader

/-- Whether a byte is white space between tokens. -/
def isSpace (b : UInt8) : Bool := b = 0x20 || b = 0x0A || b = 0x0D || b = 0x09

/-- The bytes from the next token on. -/
def skipSpace (bytes : List UInt8) : List UInt8 := bytes.dropWhile isSpace

/-- Whether a byte is a decimal digit. -/
def isDigit (b : UInt8) : Bool := 0x30 ≤ b && b ≤ 0x39

/-- The digits at the beginning, and the bytes after them. -/
def takeDigits (bytes : List UInt8) : List Nat × List UInt8 :=
  ((bytes.takeWhile isDigit).map fun b => b.toNat - 0x30, bytes.dropWhile isDigit)

/-- One or more digits. -/
def someDigits (bytes : List UInt8) : Except Fault (List Nat × List UInt8) :=
  match takeDigits bytes with
  | ([], []) => .error .truncated
  | ([], _ :: _) => .error .malformed
  | (ds, rest) => .ok (ds, rest)

/-- The digits before the point; a zero stands alone. -/
def wholeDigits (bytes : List UInt8) : Except Fault (List Nat × List UInt8) := do
  let (ds, rest) ← someDigits bytes
  match ds with
  | 0 :: _ :: _ => throw .malformed
  | _ => return (ds, rest)

/-- The digits after a point, if there is one. -/
def fractionDigits : List UInt8 → Except Fault (Option (List Nat) × List UInt8)
  | 0x2E :: rest => do
    let (ds, rest) ← someDigits rest
    return (some ds, rest)
  | rest => .ok (none, rest)

/-- The value of a list of decimal digits. -/
def ofDigits (ds : List Nat) : Nat := ds.foldl (fun acc d => acc * 10 + d) 0

/-- The exponent, if there is one. -/
def exponentDigits (bytes : List UInt8) : Except Fault (Option Int × List UInt8) :=
  match bytes with
  | 0x65 :: rest => signed rest
  | 0x45 :: rest => signed rest
  | rest => .ok (none, rest)
where
  signed (bytes : List UInt8) : Except Fault (Option Int × List UInt8) := do
    let (negative, bytes) := match bytes with
      | 0x2B :: rest => (false, rest)
      | 0x2D :: rest => (true, rest)
      | rest => (false, rest)
    let (ds, rest) ← someDigits bytes
    let n : Int := ofDigits ds
    return (some (if negative then -n else n), rest)

/-- A number literal. -/
def literal (bytes : List UInt8) : Except Fault (Literal × List UInt8) := do
  let (negative, bytes) := match bytes with
    | 0x2D :: rest => (true, rest)
    | rest => (false, rest)
  let (whole, bytes) ← wholeDigits bytes
  let (fraction, bytes) ← fractionDigits bytes
  let (exponent, bytes) ← exponentDigits bytes
  return (⟨negative, whole, fraction, exponent⟩, bytes)

/-- A number; one that ends too early is malformed for whoever only skips it. -/
def number (bytes : List UInt8) : Document × Rest :=
  match literal bytes with
  | .error fault => (.broken fault (some .malformed), .error .malformed)
  | .ok (l, rest) =>
    match l.number? with
    | some n => (.number n, .ok rest)
    | none => (.broken .malformed none, .ok rest)

/-- The value of four hexadecimal digits. -/
def fourDigits (a b c d : UInt8) : Option Nat :=
  Text.Hex.value? ([a, b, c, d].map fun x => Char.ofNat x.toNat)

/-- The byte that an escape of one letter stands for. -/
def plainEscape (b : UInt8) : Option UInt8 :=
  if b = 0x22 ∨ b = 0x5C ∨ b = 0x2F then some b
  else if b = 0x62 then some 0x08
  else if b = 0x66 then some 0x0C
  else if b = 0x6E then some 0x0A
  else if b = 0x72 then some 0x0D
  else if b = 0x74 then some 0x09
  else none

/-- What has been read of a text: its bytes from the last to the first, the first half of a pair
    that waits for its second, and the first reason not to keep the text. -/
structure Partial where
  bytes : List UInt8 := []
  half : Option Nat := none
  fault : Option Fault := none

/-- A half that finds no second half spoils the text. -/
def Partial.settle (p : Partial) : Partial :=
  match p.half with
  | some _ => { p with half := none, fault := p.fault.or (some .malformed) }
  | none => p

/-- Appends a byte. -/
def Partial.push (p : Partial) (b : UInt8) : Partial :=
  let p := p.settle
  { p with bytes := b :: p.bytes }

/-- Appends the UTF-8 bytes of a character. -/
def Partial.pushChar (p : Partial) (code : Nat) : Partial :=
  { p with bytes := (Text.Utf8.encode (String.singleton (Char.ofNat code))).reverse ++ p.bytes }

/-- Appends an escaped UTF-16 unit. -/
def Partial.pushUnit (p : Partial) (unit : Nat) : Partial :=
  let trailing : Bool := 0xDC00 ≤ unit && unit ≤ 0xDFFF
  match p.half with
  | some high =>
    if trailing then
      { p with half := none }.pushChar ((high - 0xD800) * 0x400 + (unit - 0xDC00) + 0x10000)
    else p.settle
  | none =>
    if trailing then { p with fault := p.fault.or (some .malformed) }
    else if 0xD800 ≤ unit && unit ≤ 0xDBFF then { p with half := some unit }
    else p.pushChar unit

/-- The kept text, once its closing quote is found. -/
def Partial.finish (p : Partial) : Except Fault String :=
  match p.settle.fault with
  | some fault => .error fault
  | none =>
    match Text.Utf8.decode? p.bytes.reverse with
    | some s => .ok s
    | none => .error .malformed

/-- Ends a text at a fault of the text itself. -/
def Partial.stop (p : Partial) (fault : Fault) : Except Fault String × Rest :=
  (.error (p.fault.getD fault), .error fault)

/-- The rest of a text after its opening quote: what is kept of it, and what follows. -/
def text (p : Partial) : List UInt8 → Except Fault String × Rest
  | [] => p.stop .truncated
  | 0x22 :: rest => (p.finish, .ok rest)
  | 0x5C :: 0x75 :: a :: b :: c :: d :: rest =>
    match fourDigits a b c d with
    | some unit => text (p.pushUnit unit) rest
    | none => p.stop .malformed
  | 0x5C :: 0x75 :: _ => p.stop .truncated
  | [0x5C] => p.stop .truncated
  | 0x5C :: b :: rest =>
    match plainEscape b with
    | some byte => text (p.push byte) rest
    | none => p.settle.stop .malformed
  | b :: rest => if b < 0x20 then p.settle.stop .malformed else text (p.push b) rest

/-- A word such as `true`, of which the first letter has been read. -/
def word (value : Document) : List UInt8 → List UInt8 → Document × Rest
  | [], rest => (value, .ok rest)
  | _ :: _, [] => (.broken .truncated (some .truncated), .error .truncated)
  | expected :: more, b :: rest =>
    if b = expected then word value more rest
    else (.broken .malformed (some .malformed), .error .malformed)

/-- A part that cannot be read. -/
def unreadable (fault : Fault) : Document × Rest := (.broken fault (some fault), .error fault)

/-- Ends an object with a member that has no readable value. -/
def lastMember (before : List (Except Fault String × Document)) (name : Except Fault String)
    (fault : Fault) : Document × Rest :=
  (.object ((name, .broken fault (some fault)) :: before).reverse (some fault), .error fault)

/-- A nested structure, which cannot be kept where no more nesting is allowed. -/
def nested (depth : Nat) (read : Document × Rest) : Document × Rest :=
  if depth = 0 then (.broken .malformed read.2.fault?, read.2) else read

mutual

/-- A value. `fuel` bounds the steps, of which no byte takes more than three,
    and `depth` the nesting. -/
def value (fuel depth : Nat) (bytes : List UInt8) : Document × Rest :=
  match fuel with
  | 0 => unreadable .truncated
  | fuel + 1 =>
    match skipSpace bytes with
    | [] => unreadable .truncated
    | 0x6E :: rest => word .null [0x75, 0x6C, 0x6C] rest
    | 0x74 :: rest => word (.bool true) [0x72, 0x75, 0x65] rest
    | 0x66 :: rest => word (.bool false) [0x61, 0x6C, 0x73, 0x65] rest
    | 0x22 :: rest =>
      match text {} rest with
      | (.ok s, after) => (.text s, after)
      | (.error fault, after) => (.broken fault after.fault?, after)
    | 0x5B :: rest => nested depth (array fuel (depth - 1) rest)
    | 0x7B :: rest => nested depth (object fuel (depth - 1) rest)
    | b :: rest =>
      if b = 0x2D || isDigit b then number (b :: rest) else unreadable .malformed

/-- An array after its bracket. -/
def array (fuel depth : Nat) (bytes : List UInt8) : Document × Rest :=
  match fuel with
  | 0 => unreadable .truncated
  | fuel + 1 =>
    match skipSpace bytes with
    | [] => (.array [] (some .truncated), .error .truncated)
    | 0x5D :: rest => (.array [] none, .ok rest)
    | rest => items fuel depth [] rest

/-- The items of an array after those in `before`, which is in reverse. -/
def items (fuel depth : Nat) (before : List Document) (bytes : List UInt8) : Document × Rest :=
  match fuel with
  | 0 => unreadable .truncated
  | fuel + 1 =>
    match value fuel depth bytes with
    | (item, .error fault) => (.array (item :: before).reverse (some fault), .error fault)
    | (item, .ok rest) =>
      match skipSpace rest with
      | 0x2C :: rest => items fuel depth (item :: before) rest
      | 0x5D :: rest => (.array (item :: before).reverse none, .ok rest)
      | [] => (.array (item :: before).reverse (some .truncated), .error .truncated)
      | _ => (.array (item :: before).reverse (some .malformed), .error .malformed)

/-- An object after its brace. -/
def object (fuel depth : Nat) (bytes : List UInt8) : Document × Rest :=
  match fuel with
  | 0 => unreadable .truncated
  | fuel + 1 =>
    match skipSpace bytes with
    | [] => (.object [] (some .truncated), .error .truncated)
    | 0x7D :: rest => (.object [] none, .ok rest)
    | 0x22 :: rest => members fuel depth [] rest
    | _ => (.object [] (some .malformed), .error .malformed)

/-- The members of an object after those in `before`, which is in reverse, from the name whose
    quote has been read. -/
def members (fuel depth : Nat) (before : List (Except Fault String × Document))
    (bytes : List UInt8) : Document × Rest :=
  match fuel with
  | 0 => unreadable .truncated
  | fuel + 1 =>
    match text {} bytes with
    | (name, .error fault) => lastMember before name fault
    | (name, .ok rest) =>
      match skipSpace rest with
      | 0x3A :: rest =>
        match value fuel depth rest with
        | (item, .error fault) =>
          (.object ((name, item) :: before).reverse (some fault), .error fault)
        | (item, .ok rest) =>
          let before := (name, item) :: before
          match skipSpace rest with
          | 0x2C :: rest =>
            match skipSpace rest with
            | 0x22 :: rest => members fuel depth before rest
            | [] => lastMember before (.error .truncated) .truncated
            | _ => lastMember before (.error .malformed) .malformed
          | 0x7D :: rest => (.object before.reverse none, .ok rest)
          | [] => (.object before.reverse (some .truncated), .error .truncated)
          | _ => (.object before.reverse (some .malformed), .error .malformed)
      | [] => lastMember before name .truncated
      | _ => lastMember before name .malformed

end

end Reader

/-- JSON text: its value, and whether something follows the value. -/
structure Source where
  root : Document
  trailing : Bool

/-- Reads bytes as JSON text. -/
def Source.ofBytes (bytes : List UInt8) : Source :=
  match Reader.value (3 * bytes.length + 3) maxDepth bytes with
  | (root, .error _) => ⟨root, false⟩
  | (root, .ok rest) => ⟨root, !(Reader.skipSpace rest).isEmpty⟩

/-- Reads a text as JSON. -/
def Source.ofText (s : String) : Source := .ofBytes (Text.Utf8.encode s)

end AssetOracle.Json
