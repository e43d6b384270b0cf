import AssetOracle.Text.Hex

/-!
# Texts and keys of a configuration file

Quoted texts of one line and of several lines, with escapes between double quotes and without any
between single quotes, and the names that keys are made of. Each reader takes what it reads off
the front of a character list and fails on anything else.
-/

namespace AssetOracle.Toml

/-- Takes a value off the front of a character list. -/
abbrev Parse (α : Type) := List Char → Option (α × List Char)

/-- Whether a character separates tokens of a line. -/
def isBlank (c : Char) : Bool := c = ' ' || c = '\t'

/-- What follows the blanks at the front. -/
def skipBlanks (cs : List Char) : List Char := cs.dropWhile isBlank

/-- Whether a character may stand in a text; line ends are looked at apart. -/
def isTextChar (c : Char) : Bool := c = '\t' || (0x20 ≤ c.toNat && c.toNat ≠ 0x7F)

/-- The character of a code point, if it has one. -/
def scalar? (code : Nat) : Option Char :=
  if code < 0xD800 ∨ (0xDFFF < code ∧ code < 0x110000) then some (Char.ofNat code) else none

/-- The character that an escape of one letter stands for. -/
def plainEscape (c : Char) : Option Char :=
  match c with
  | 'b' => some '\x08'
  | 't' => some '\t'
  | 'n' => some '\n'
  | 'f' => some '\x0c'
  | 'r' => some '\r'
  | '"' => some '"'
  | '\\' => some '\\'
  | _ => none

/-- Puts a character in front of a text that has been read. -/
def consText (c : Char) (read : Option (List Char × List Char)) :
    Option (List Char × List Char) :=
  read.map fun (text, rest) => (c :: text, rest)

/-- The rest of a text on one line between double quotes. -/
def basicText : Parse (List Char)
  | [] => none
  | '"' :: rest => some ([], rest)
  | '\\' :: 'u' :: a :: b :: c :: d :: rest => do
    let char ← scalar? (← Text.Hex.value? [a, b, c, d])
    consText char (basicText rest)
  | '\\' :: 'U' :: a :: b :: c :: d :: e :: f :: g :: h :: rest => do
    let char ← scalar? (← Text.Hex.value? [a, b, c, d, e, f, g, h])
    consText char (basicText rest)
  | '\\' :: c :: rest => do
    let char ← plainEscape c
    consText char (basicText rest)
  | c :: rest => if isTextChar c ∧ c ≠ '\\' then consText c (basicText rest) else none

/-- The rest of a text on one line between single quotes. -/
def literalText : Parse (List Char)
  | [] => none
  | '\x27' :: rest => some ([], rest)
  | c :: rest => if isTextChar c then consText c (literalText rest) else none

/-- Whether the next thing after blanks is a line end. -/
def endsLine (cs : List Char) : Bool :=
  match skipBlanks cs with
  | '\n' :: _ => true
  | '\r' :: '\n' :: _ => true
  | _ => false

/-- The rest of a text of several lines. Three quotes end it, before which two more may stand; a
    backslash at the end of a line, where there are escapes, drops all white space after it. -/
def longText (quote : Char) (escapes : Bool) (quotes : Nat) (trimming : Bool) :
    Parse (List Char)
  | [] => none
  | '\r' :: '\n' :: rest =>
    let read := longText quote escapes 0 trimming rest
    if trimming then read else consText '\n' read
  | '\n' :: rest =>
    let read := longText quote escapes 0 trimming rest
    if trimming then read else consText '\n' read
  | '\\' :: 'u' :: a :: b :: c :: d :: rest =>
    if escapes then do
      let char ← scalar? (← Text.Hex.value? [a, b, c, d])
      consText char (longText quote escapes 0 false rest)
    else consText '\\' (longText quote escapes 0 false ('u' :: a :: b :: c :: d :: rest))
  | '\\' :: c :: rest =>
    if escapes then
      if endsLine (c :: rest) then longText quote escapes 0 true (c :: rest)
      else if c = 'U' then
        match rest with
        | a :: b :: d :: e :: f :: g :: h :: i :: more => do
          let char ← scalar? (← Text.Hex.value? [a, b, d, e, f, g, h, i])
          consText char (longText quote escapes 0 false more)
        | _ => none
      else do
        let char ← plainEscape c
        consText char (longText quote escapes 0 false rest)
    else consText '\\' (longText quote escapes 0 false (c :: rest))
  | c :: rest =>
    if c = quote then
      match rest with
      | a :: b :: more =>
        if a = quote ∧ b = quote then
          if more.head? = some quote ∧ quotes < 2 then
            consText c (longText quote escapes (quotes + 1) false rest)
          else some ([], more)
        else consText c (longText quote escapes (quotes + 1) false rest)
      | _ => none
    else if trimming ∧ isBlank c then longText quote escapes 0 true rest
    else if isTextChar c ∧ (c ≠ '\\' ∨ escapes = false) then
      consText c (longText quote escapes 0 false rest)
    else none

/-- Drops a line end at the front. -/
def dropLineEnd : List Char → List Char
  | '\n' :: rest => rest
  | '\r' :: '\n' :: rest => rest
  | cs => cs

/-- A quoted text of any kind; a line end right after three quotes does not count. -/
def text : Parse (List Char)
  | '"' :: '"' :: '"' :: rest => longText '"' true 0 false (dropLineEnd rest)
  | '\x27' :: '\x27' :: '\x27' :: rest => longText '\x27' false 0 false (dropLineEnd rest)
  | '"' :: rest => basicText rest
  | '\x27' :: rest => literalText rest
  | _ => none

/-- Whether a character may stand in a name without quotes. -/
def isBare (c : Char) : Bool := c.isAlphanum || c = '_' || c = '-'

/-- One name of a key. -/
def name : Parse String
  | '"' :: rest => (basicText rest).map fun (s, rest) => (String.ofList s, rest)
  | '\x27' :: rest => (literalText rest).map fun (s, rest) => (String.ofList s, rest)
  | cs =>
    match cs.takeWhile isBare with
    | [] => none
    | bare => some (String.ofList bare, cs.dropWhile isBare)

/-- How many names a key may have, and how deep values may be nested. -/
def maxDepth : Nat := 80

/-- Names between dots, with blanks around them. -/
def names : (count : Nat) → Parse (List String)
  | 0, _ => none
  | count + 1, cs => do
    let (first, rest) ← name (skipBlanks cs)
    match skipBlanks rest with
    | '.' :: rest => do
      let (more, rest) ← names count rest
      return (first :: more, rest)
    | rest => return ([first], rest)

/-- A key: the names of the tables on the way and the last name. -/
def key (cs : List Char) : Option ((List String × String) × List Char) := do
  let (all, rest) ← names (maxDepth - 1) cs
  let last ← all.getLast?
  return ((all.dropLast, last), rest)

end AssetOracle.Toml
