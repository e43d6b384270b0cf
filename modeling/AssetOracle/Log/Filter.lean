import AssetOracle.Decimal.Fixed
import AssetOracle.Log.Event
import AssetOracle.Text.Blank

/-!
# Log filters

Which log events are kept. A filter is a list of directives, each a bound for the targets that
begin with a name; the one with the longest name decides, and of two with the same name the
later one. A target for which there is no directive is silent.
-/

namespace AssetOracle.Log

/-- The directives for everything but the service itself. -/
def libraryDirectives : String := "tower_http=info,hyper=warn,reqwest=warn"

/-- The filter for a configured level. -/
def defaultFilter (level : String) : String := "coins_oracle=" ++ level ++ "," ++ libraryDirectives

/-- The rank of the least important events that are kept; zero keeps none. -/
abbrev Bound := Nat

/-- A bound: the name of a level in any case, `off`, or a rank. -/
def bound? (s : String) : Option Bound :=
  let digits :=
    match s.toList with
    | '+' :: rest => rest
    | cs => cs
  match Decimal.ofDigits? digits with
  | some n => if n ≤ 5 then some n else none
  | none =>
    if Text.equalsIgnoringCase s "off" then some 0
    else (Level.all.find? fun l => Text.equalsIgnoringCase s l.name).map Level.rank

/-- A directive. Without a target it is for all of them; one for spans concerns no event outside
    of a span. -/
structure Directive where
  target : Option String
  bound : Bound
  forSpans : Bool := false
deriving DecidableEq, Repr

namespace Directive

/-- Whether a directive may begin with a character. -/
def isStart (c : Char) : Bool := c.isAlphanum || "-:_".toList.contains c || 127 < c.toNat

/-- A bound after an equals sign; without a text everything is kept. -/
def boundText? (s : String) : Option Bound := if s.isEmpty then some 5 else bound? s

/-- What may follow the brackets of a span. -/
def afterSpan? : List Char → Option Bound
  | [] => some 5
  | '=' :: level => boundText? (String.ofList level)
  | _ => none

/-- Reads a directive. -/
def parse? (s : String) : Option Directive :=
  let cs := Text.trimChars s.toList
  let name := cs.takeWhile fun c => c ≠ '=' ∧ c ≠ '['
  let target := if name.isEmpty then none else some (String.ofList name)
  match cs.dropWhile fun c => c ≠ '=' ∧ c ≠ '[' with
  | [] =>
    if name.head?.any isStart then
      match bound? (String.ofList name) with
      | some bound => some ⟨none, bound, false⟩
      | none => some ⟨target, 5, false⟩
    else none
  | '=' :: level =>
    if name.head?.any isStart then
      (boundText? (String.ofList level)).map fun bound => ⟨target, bound, false⟩
    else none
  | _ :: span =>
    match span.dropWhile (· ≠ ']') with
    | [] => none
    | _ :: rest =>
      if name.head?.all isStart then (afterSpan? rest).map fun bound => ⟨target, bound, true⟩
      else none

/-- Whether a directive is for a target. -/
def covers (d : Directive) (target : String) : Bool :=
  !d.forSpans && d.target.all fun name => name.toList.isPrefixOf target.toList

/-- How closely a directive names its targets. -/
def weight (d : Directive) : Nat :=
  match d.target with
  | none => 0
  | some name => name.utf8ByteSize + 1

end Directive

/-- Which events are kept. -/
abbrev Filter := List Directive

namespace Filter

/-- The texts of directives, between commas. -/
def pieces (s : String) : List String := (s.splitOn ",").filter (!·.isEmpty)

/-- Reads a filter. An empty one keeps errors. -/
def parse? (s : String) : Option Filter :=
  match pieces s with
  | [] => some [⟨none, 1, false⟩]
  | texts => texts.mapM Directive.parse?

/-- The directive that decides about a target. -/
def deciding (f : Filter) (target : String) : Option Directive :=
  (f.filter (·.covers target)).foldl (fun best d =>
    match best with
    | some b => if b.weight ≤ d.weight then some d else some b
    | none => some d) none

/-- Whether an event is kept. -/
def keeps (f : Filter) (e : Event) : Bool :=
  match f.deciding e.source.target with
  | some d => e.level.rank ≤ d.bound
  | none => false

/-- The filter of the environment if it holds one, and else that for a configured level. -/
def choose (fromEnvironment : Option String) (level : String) : Option Filter :=
  (fromEnvironment.bind parse?).or (parse? (defaultFilter level))

end Filter

end AssetOracle.Log
