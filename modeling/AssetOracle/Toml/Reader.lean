import AssetOracle.Toml.Number
import AssetOracle.Toml.Table

/-!
# Reading a configuration file

`Toml.read?` turns the text of a configuration file into a document. A file is a sequence of
lines: headers, each of which opens a table, and pairs of a key and a value, which go to the table
that is open. A header's table is put in its place when the next header or the end comes.
-/

namespace AssetOracle.Toml

/-- The document of a date or time, which decodes only as a structure without known fields. -/
def momentDocument (text : String) : Document :=
  .record [("$moment", .text text)]

/-- The document of a number or date. -/
def Scalar.document : Scalar → Document
  | .integer n => .number (.integer n)
  | .float x => .number (.float x)
  | .moment s => momentDocument s

/-- A comment up to the end of its line. -/
def skipComment : List Char → List Char
  | '#' :: rest => rest.dropWhile isTextChar
  | cs => cs

/-- The end of a line, or of the file. -/
def lineEnd : List Char → Option (List Char)
  | [] => some []
  | '\n' :: rest => some rest
  | '\r' :: '\n' :: rest => some rest
  | _ => none

/-- What may follow a statement on its line. -/
def endStatement (cs : List Char) : Option (List Char) := lineEnd (skipComment (skipBlanks cs))

/-- White space, line ends and comments between the items of an array. -/
def skipFiller : (fuel : Nat) → List Char → Option (List Char)
  | 0, _ => none
  | fuel + 1, cs =>
    match skipBlanks cs with
    | '\n' :: rest => skipFiller fuel rest
    | '\r' :: '\n' :: rest => skipFiller fuel rest
    | '#' :: rest => do
      skipFiller fuel (← lineEnd (skipComment ('#' :: rest)))
    | cs => some cs

mutual

/-- A value. `depth` is how much further values may be nested. -/
def value (fuel depth : Nat) (cs : List Char) : Option (Document × List Char) :=
  match fuel with
  | 0 => none
  | fuel + 1 =>
    match cs with
    | [] => none
    | '[' :: rest =>
      match depth with
      | 0 => none
      | depth + 1 => arrayItems fuel depth [] rest
    | '\x7b' :: rest =>
      match depth with
      | 0 => none
      | depth + 1 =>
        match skipBlanks rest with
        | '\x7d' :: rest => some (.record [], rest)
        | rest => pairs fuel depth .empty rest
    | 't' :: 'r' :: 'u' :: 'e' :: rest => some (.bool true, rest)
    | 'f' :: 'a' :: 'l' :: 's' :: 'e' :: rest => some (.bool false, rest)
    | c :: rest =>
      if c = '"' ∨ c = '\x27' then
        (text (c :: rest)).map fun (s, rest) => (.text (String.ofList s), rest)
      else (scalar (c :: rest)).map fun (s, rest) => (s.document, rest)

/-- The items of an array after those in `before`, which is in reverse. -/
def arrayItems (fuel depth : Nat) (before : List Document) (cs : List Char) :
    Option (Document × List Char) :=
  match fuel with
  | 0 => none
  | fuel + 1 => do
    match ← skipFiller (cs.length + 1) cs with
    | ']' :: rest => return (.list before.reverse, rest)
    | cs =>
      let (item, cs) ← value fuel depth cs
      match ← skipFiller (cs.length + 1) cs with
      | ',' :: rest => arrayItems fuel depth (item :: before) rest
      | ']' :: rest => return (.list (item :: before).reverse, rest)
      | _ => none

/-- The pairs of a table on one line. -/
def pairs (fuel depth : Nat) (before : Table) (cs : List Char) :
    Option (Document × List Char) :=
  match fuel with
  | 0 => none
  | fuel + 1 => do
    let ((path, last), cs) ← key cs
    let ((), cs) ← expect '=' cs
    let (item, cs) ← value fuel depth (skipBlanks cs)
    let table ← before.insert path last item
    match skipBlanks cs with
    | ',' :: rest => pairs fuel depth table rest
    | '\x7d' :: rest => return (table.toDocument, rest)
    | _ => none

end

/-- What has been read: the tables that are in their places, and the open table with the path and
    name of its header. -/
structure Progress where
  root : Table := .empty
  current : Table := .empty
  header : Option (List String × String) := none
  repeated : Bool := false

namespace Progress

/-- Puts the open table in its place. -/
def close (p : Progress) : Option Table :=
  match p.header with
  | none => some p.current
  | some (path, name) =>
    if p.repeated then p.root.appendTable path name p.current
    else p.root.addTable path name p.current

/-- Opens the table of a header. A table that lies on the way to others is taken up again. -/
def openTable (p : Progress) (path : List String) (name : String) : Option Progress := do
  let root ← p.close
  let found ← root.change false some path
  let parent ← locate path found
  match parent.entries.lookup name with
  | none => return { root := found, header := some (path, name) }
  | some (.table t) =>
    if t.implicit && !t.dotted then do
      let root ← found.change false
        (fun parent => some (parent.withEntries (Table.remove name parent.entries))) path
      return { root, current := t.headed, header := some (path, name) }
    else none
  | some _ => none
where
  /-- The table at the end of a path. -/
  locate : List String → Table → Option Table
    | [], t => some t
    | name :: path, t =>
      match t.entries.lookup name with
      | some (.table child) => locate path child
      | some (.tables contents) => contents.getLast?.bind (locate path)
      | _ => none

/-- Opens one more table of a repeated header. -/
def openRepeated (p : Progress) (path : List String) (name : String) : Option Progress := do
  let root ← p.close
  let _ ← root.appendTable path name .empty
  return { root, header := some (path, name), repeated := true }

/-- Puts a value in the open table. -/
def insert (p : Progress) (path : List String) (name : String) (value : Document) :
    Option Progress := do
  return { p with current := ← p.current.insert path name value }

end Progress

/-- One statement, and what follows its line. -/
def statement (p : Progress) (cs : List Char) : Option (Progress × List Char) :=
  match cs with
  | '#' :: _ => do return (p, ← lineEnd (skipComment cs))
  | '\n' :: rest => some (p, rest)
  | '\r' :: rest => do
    let ((), rest) ← expect '\n' rest
    return (p, rest)
  | '[' :: '[' :: rest => do
    let ((path, name), cs) ← key rest
    let ((), cs) ← expect ']' cs
    let ((), cs) ← expect ']' cs
    let p ← p.openRepeated path name
    return (p, ← endStatement cs)
  | '[' :: rest => do
    let ((path, name), cs) ← key rest
    let ((), cs) ← expect ']' cs
    let p ← p.openTable path name
    return (p, ← endStatement cs)
  | cs => do
    let ((path, name), cs) ← key cs
    let ((), cs) ← expect '=' cs
    let (value, cs) ← value (3 * cs.length + 3) (maxDepth - 1) (skipBlanks cs)
    let p ← p.insert path name value
    return (p, ← endStatement cs)

/-- All statements. -/
def statements (p : Progress) : (fuel : Nat) → List Char → Option Progress
  | 0, _ => none
  | fuel + 1, cs =>
    match skipBlanks cs with
    | [] => some p
    | cs => do
      let (p, rest) ← statement p cs
      statements p fuel rest

/-- Drops a byte order mark. -/
def dropMark : List Char → List Char
  | c :: rest => if c.toNat = 0xFEFF then rest else c :: rest
  | [] => []

/-- The document of a configuration file, unless its text is no such file. -/
def read? (text : String) : Option Document := do
  let cs := dropMark text.toList
  let p ← statements {} (cs.length + 1) cs
  let root ← p.close
  return root.toDocument

end AssetOracle.Toml
