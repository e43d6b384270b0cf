import AssetOracle.Document.Basic

/-!
# Tables of a configuration file

A table under construction. It remembers how it came about, because that decides who may still
add to it: a table that only lies on the way to another one may get a header of its own, a table
made by a dotted key may get more dotted keys, and no name may be given twice.
-/

namespace AssetOracle.Toml

mutual

/-- What stands under a name: a finished value, a table, or the tables of a repeated header. -/
inductive Entry where
  | value (document : Document)
  | table (content : Table)
  | tables (contents : List Table)

/-- A table: whether it was made only on the way to another one, whether a dotted key did so, and
    its entries in order. -/
inductive Table where
  | mk (implicit dotted : Bool) (entries : List (String × Entry))

end

namespace Table

/-- Whether the table was made on the way to another one. -/
def implicit : Table → Bool
  | .mk implicit _ _ => implicit

/-- Whether a dotted key made the table. -/
def dotted : Table → Bool
  | .mk _ dotted _ => dotted

/-- The entries in order. -/
def entries : Table → List (String × Entry)
  | .mk _ _ entries => entries

/-- The table with other entries. -/
def withEntries (t : Table) (entries : List (String × Entry)) : Table :=
  .mk t.implicit t.dotted entries

/-- A table with a header of its own and nothing in it. -/
def empty : Table := .mk false false []

/-- The table as one with a header of its own. -/
def headed (t : Table) : Table := .mk false false t.entries

/-- The entries with another one under a name, at the same place. -/
def replace (name : String) (entry : Entry) : List (String × Entry) → List (String × Entry)
  | [] => [(name, entry)]
  | (n, e) :: rest => if n = name then (n, entry) :: rest else (n, e) :: replace name entry rest

/-- The entries without those of a name. -/
def remove (name : String) (entries : List (String × Entry)) : List (String × Entry) :=
  entries.filter fun (n, _) => n ≠ name

/-- Changes the last element of a list; `none` if there is none. -/
def changeLast {α : Type} (f : α → Option α) : List α → Option (List α)
  | [] => none
  | [x] => (f x).map fun y => [y]
  | x :: xs => (changeLast f xs).map (x :: ·)

/-- Changes the table at the end of a path, making the tables on the way. A dotted path may not
    enter a table that has a header. -/
def change (dotted : Bool) (f : Table → Option Table) : List String → Table → Option Table
  | [], t => f t
  | name :: path, t =>
    match t.entries.lookup name with
    | none => do
      let child ← change dotted f path (.mk true dotted [])
      return t.withEntries (t.entries ++ [(name, .table child)])
    | some (.value _) => none
    | some (.tables contents) => do
      let contents ← changeLast (change dotted f path) contents
      return t.withEntries (replace name (.tables contents) t.entries)
    | some (.table child) =>
      if dotted && !child.implicit then none
      else do
        let child ← change dotted f path child
        return t.withEntries (replace name (.table child) t.entries)

/-- Puts a value under a key. The tables of the path have to be made by dotted keys. -/
def insert (t : Table) (path : List String) (name : String) (value : Document) : Option Table :=
  t.change true (fun inner =>
    if inner.dotted = path.isEmpty then none
    else if (inner.entries.lookup name).isSome then none
    else some (inner.withEntries (inner.entries ++ [(name, .value value)]))) path

/-- Appends a table to the tables of a repeated header. -/
def appendTable (t : Table) (path : List String) (name : String) (content : Table) :
    Option Table :=
  t.change false (fun parent =>
    match parent.entries.lookup name with
    | none => some (parent.withEntries (parent.entries ++ [(name, .tables [content])]))
    | some (.tables contents) =>
      some (parent.withEntries (replace name (.tables (contents ++ [content])) parent.entries))
    | some _ => none) path

/-- Puts a table under the name of its header. -/
def addTable (t : Table) (path : List String) (name : String) (content : Table) : Option Table :=
  t.change false (fun parent =>
    match parent.entries.lookup name with
    | none => some (parent.withEntries (parent.entries ++ [(name, .table content)]))
    | some _ => none) path

mutual

/-- The document of an entry. -/
def entryDocument : Entry → Document
  | .value d => d
  | .table t => toDocument t
  | .tables ts => .array (tableDocuments ts) none

/-- The document of a table. -/
def toDocument : Table → Document
  | .mk _ _ entries => .object (entryDocuments entries) none

/-- The documents of tables. -/
def tableDocuments : List Table → List Document
  | [] => []
  | t :: ts => toDocument t :: tableDocuments ts

/-- The documents of entries. -/
def entryDocuments : List (String × Entry) → List (Except Fault String × Document)
  | [] => []
  | (name, e) :: rest => (.ok name, entryDocument e) :: entryDocuments rest

end

end Table

end AssetOracle.Toml
