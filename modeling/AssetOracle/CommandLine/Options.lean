/-!
# Options

Reading the words of a command line: options with a long and a short name, some of which take a
value, free words up to a number, and commands, which end the reading. Words are read from left to
right, and the first that asks for help or is at fault decides. The value of an option may follow
as a word of its own; such an option is settled only when the next one or a free word is met or
the words end.
-/

namespace AssetOracle.CommandLine

/-- An option. -/
structure Flag where
  name : String
  short : Option Char := none
  takesValue : Bool := true
  mayBeEmpty : Bool := true
deriving DecidableEq, Repr

/-- What a command line may hold. -/
structure Grammar where
  flags : List Flag
  words : Nat := 0
  commands : List String := []
deriving DecidableEq, Repr

/-- Why a command line is not carried out. -/
inductive Stop where
  | help
  | misuse
deriving DecidableEq, Repr

/-- The status that a program ends with that does not carry out its command line. -/
def Stop.exit : Stop → Nat
  | .help => 0
  | .misuse => 2

/-- An option that is not settled yet, with its value if that has come. -/
structure Pending where
  flag : Flag
  value : Option String
deriving DecidableEq, Repr

/-- What was read: the settled options with their values, the option that is not settled yet, the
    free words, whether only free words may follow, and the command with the words after it. -/
structure Reading where
  options : List (String × String) := []
  pending : Option Pending := none
  words : List String := []
  onlyWords : Bool := false
  command : Option (String × List String) := none
deriving DecidableEq, Repr

namespace Reading

/-- The value of an option; empty for one without a value. -/
def value? (r : Reading) (name : String) : Option String := r.options.lookup name

/-- Whether an option was given. -/
def has (r : Reading) (name : String) : Bool := (r.value? name).isSome

/-- Whether the next word is the value of an option. -/
def awaitsValue (r : Reading) : Bool :=
  match r.pending with
  | some p => p.value.isNone
  | none => false

/-- Takes an option with its value. No option is given twice. -/
def settleFlag (r : Reading) (flag : Flag) (value : String) : Except Stop Reading :=
  if r.has flag.name ∨ (value.isEmpty ∧ flag.mayBeEmpty = false) then .error .misuse
  else .ok { r with options := r.options ++ [(flag.name, value)] }

/-- Settles the option that is not settled yet. It needs its value. -/
def settle (r : Reading) : Except Stop Reading :=
  match r.pending with
  | none => .ok r
  | some ⟨_, none⟩ => .error .misuse
  | some ⟨flag, some value⟩ => { r with pending := none }.settleFlag flag value

/-- Takes a free word. -/
def addWord (r : Reading) (limit : Nat) (word : String) : Except Stop Reading := do
  let r ← r.settle
  if r.words.length < limit then return { r with words := r.words ++ [word] }
  else throw .misuse

/-- Takes an option, whose value may be attached to it. -/
def addFlag (r : Reading) (flag : Flag) (attached : Option String) : Except Stop Reading := do
  let r ← r.settle
  match flag.takesValue, attached with
  | true, some value => r.settleFlag flag value
  | true, none => return { r with pending := some ⟨flag, none⟩ }
  | false, none => r.settleFlag { flag with mayBeEmpty := true } ""
  | false, some _ => throw .misuse

/-- Stops for help once the option before is settled. -/
def askHelp (r : Reading) : Except Stop Reading := do
  let _ ← r.settle
  throw .help

end Reading

namespace Grammar

/-- The option of a long name. -/
def long? (g : Grammar) (name : String) : Option Flag := g.flags.find? (·.name = name)

/-- The option of a short name. -/
def short? (g : Grammar) (c : Char) : Option Flag := g.flags.find? (·.short = some c)

/-- A word that begins with two hyphens: the name of an option, and its value after an equals
    sign. -/
def readLong (g : Grammar) (r : Reading) (cs : List Char) : Except Stop Reading :=
  let name := String.ofList (cs.takeWhile (· ≠ '='))
  let attached :=
    match cs.dropWhile (· ≠ '=') with
    | [] => none
    | _ :: value => some (String.ofList value)
  if name = "help" then
    if attached.isNone then r.askHelp else .error .misuse
  else
    match g.long? name with
    | some flag => r.addFlag flag attached
    | none => .error .misuse

/-- A word that begins with one hyphen: short names, of which the first that takes a value has the
    rest of the word for it. -/
def readShorts (g : Grammar) (r : Reading) : List Char → Except Stop Reading
  | [] => .ok r
  | c :: rest =>
    if c = 'h' then r.askHelp
    else
      match g.short? c with
      | none => .error .misuse
      | some flag =>
        if flag.takesValue then
          match rest with
          | [] => r.addFlag flag none
          | '=' :: value => r.addFlag flag (some (String.ofList value))
          | value => r.addFlag flag (some (String.ofList value))
        else do
          let r ← r.addFlag flag none
          readShorts g r rest

/-- A word. -/
def readWord (g : Grammar) (r : Reading) (word : String) : Except Stop Reading :=
  if r.onlyWords then r.addWord g.words word
  else
    match word.toList with
    | ['-', '-'] => .ok { r with onlyWords := true }
    | '-' :: '-' :: cs => g.readLong r cs
    | '-' :: c :: cs => g.readShorts r (c :: cs)
    | _ =>
      match r.pending with
      | some ⟨flag, none⟩ => .ok { r with pending := some ⟨flag, some word⟩ }
      | _ => r.addWord g.words word

/-- Reads words up to a command. -/
def readFrom (g : Grammar) (r : Reading) : List String → Except Stop Reading
  | [] => .ok r
  | word :: rest =>
    if r.onlyWords = false ∧ r.awaitsValue = false ∧ g.commands.contains word then
      .ok { r with command := some (word, rest) }
    else do
      let r ← g.readWord r word
      readFrom g r rest

/-- Reads the words of a command line. The last option may be unsettled. -/
def read (g : Grammar) (words : List String) : Except Stop Reading := g.readFrom {} words

end Grammar

end AssetOracle.CommandLine
