import AssetOracle.Url.Basic

/-!
# Reading URLs

`Url.parse?` reads an absolute URL: a scheme, for most schemes a host with credentials and a
port, a path, a query and a fragment. Control characters and spaces around the text and tabs and
line ends inside it are dropped, and backslashes divide paths as slashes do where the scheme is
one of those that always have a host.
-/

namespace AssetOracle.Url

open Text.Percent (encodeChars)

/-- Whether a character is escaped in every part. -/
def inControls (c : Char) : Bool := c.toNat < 0x20 || c.toNat = 0x7F

/-- Whether a character is escaped in fragments. -/
def inFragmentSet (c : Char) : Bool := inControls c || [' ', '"', '<', '>', '\x60'].contains c

/-- Whether a character is escaped in queries; an apostrophe is if the scheme asks for it. -/
def inQuerySet (special : Bool) (c : Char) : Bool :=
  inControls c || [' ', '"', '#', '<', '>'].contains c || (special && c = '\x27')

/-- Whether a character is escaped in path segments. -/
def inPathSet (c : Char) : Bool :=
  inFragmentSet c || ['#', '?', '^', '\x7b', '\x7d'].contains c

/-- Whether a character is escaped in user names and passwords. -/
def inUserinfoSet (c : Char) : Bool :=
  inPathSet c || ['/', ':', ';', '=', '@', '[', '\\', ']', '|'].contains c

/-- Escapes a part. -/
def encodePart (escaped : Char → Bool) (cs : List Char) : String :=
  String.ofList (encodeChars escaped cs)

/-- Drops control characters and spaces at both ends, and tabs and line ends everywhere. -/
def tidy (cs : List Char) : List Char :=
  let outer (c : Char) : Bool := c.toNat ≤ 0x20
  let inner := ((cs.dropWhile outer).reverse.dropWhile outer).reverse
  inner.filter fun c => c ≠ '\t' ∧ c ≠ '\n' ∧ c ≠ '\r'

/-- The scheme, in lower case, and what follows its colon. -/
def splitScheme : List Char → Option (String × List Char)
  | [] => none
  | first :: rest =>
    if first.isAlpha then
      let body := rest.takeWhile fun c => c.isAlphanum || c = '+' || c = '-' || c = '.'
      match rest.dropWhile fun c => c.isAlphanum || c = '+' || c = '-' || c = '.' with
      | ':' :: after => some (String.ofList ((first :: body).map Text.lowerAscii), after)
      | _ => none
    else none

/-- Whether a character divides the parts of a URL after its host. -/
def endsAuthority (special : Bool) (c : Char) : Bool :=
  c = '/' || c = '?' || c = '#' || (special && c = '\\')

/-- Splits at the first character that a predicate selects, which stays with the second part. -/
def splitAtFirst (stop : Char → Bool) (cs : List Char) : List Char × List Char :=
  (cs.takeWhile fun c => !stop c, cs.dropWhile fun c => !stop c)

/-- User name and password. -/
def splitCredentials (cs : List Char) : String × String :=
  match splitAtFirst (· = ':') cs with
  | (username, _ :: password) =>
    (encodePart inUserinfoSet username, encodePart inUserinfoSet password)
  | (username, []) => (encodePart inUserinfoSet username, "")

/-- The text of the host and the text of the port; colons in brackets belong to the host. -/
def splitPort (inBrackets : Bool) : List Char → List Char × Option (List Char)
  | [] => ([], none)
  | c :: rest =>
    if c = ':' ∧ inBrackets = false then ([], some rest)
    else
      let (host, port) := splitPort (c = '[' || (inBrackets && c ≠ ']')) rest
      (c :: host, port)

/-- A port; none is named if there are no digits or they are those of the default. -/
def port? (scheme : String) (cs : List Char) : Option (Option Nat) :=
  if cs.isEmpty then some none
  else do
    let n ← Net.port? cs
    return if hostedSchemes.lookup scheme = some n then none else some n

/-- What stands between the slashes and the path. -/
structure Authority where
  username : String
  password : String
  host : Host
  port : Option Nat

/-- Credentials, host and port. The last at sign ends the credentials. -/
def authority? (scheme : String) (cs : List Char) : Option Authority := do
  let (credentials, place) := match Net.splitLast '@' cs with
    | some (before, after) => (before, after)
    | none => ([], cs)
  let (hostText, portText) := splitPort false place
  let (username, password) := splitCredentials credentials
  if hostText.isEmpty then
    if isSpecial scheme ∨ portText.isSome ∨ credentials.isEmpty = false then none
    else some ⟨username, password, .domain "", none⟩
  else
    let host ← if isSpecial scheme then Host.parse? hostText else Host.parseOpaque? hostText
    let port ← port? scheme (portText.getD [])
    return ⟨username, password, host, port⟩

/-- Whether a segment stands for the directory itself. -/
def isDot (segment : List Char) : Bool :=
  segment = ['.'] || segment.map Text.lowerAscii = ['%', '2', 'e']

/-- Whether a segment stands for the directory above. -/
def isDoubleDot (segment : List Char) : Bool :=
  let s := segment.map Text.lowerAscii
  s = ['.', '.'] || s = ['.', '%', '2', 'e'] || s = ['%', '2', 'e', '.'] ||
    s = ['%', '2', 'e', '%', '2', 'e']

/-- Resolves dot segments; `done` holds the finished segments in reverse. -/
def resolveDots (done : List String) : List (List Char) → List String
  | [] => done.reverse
  | [last] =>
    if isDoubleDot last then ("" :: done.tail).reverse
    else if isDot last then ("" :: done).reverse
    else (encodePart inPathSet last :: done).reverse
  | segment :: more =>
    if isDoubleDot segment then resolveDots done.tail more
    else if isDot segment then resolveDots done more
    else resolveDots (encodePart inPathSet segment :: done) more

/-- The segments of a path after its first slash. -/
def segments (special : Bool) (cs : List Char) : List String :=
  let cs := if special then cs.map fun c => if c = '\\' then '/' else c else cs
  resolveDots [] (Net.splitOn '/' cs)

/-- The path up to the query, which after a host may be missing. -/
def hierarchicalPath (special : Bool) (cs : List Char) : Path :=
  match cs with
  | [] => .segments (if special then [""] else [])
  | '/' :: rest => .segments (segments special rest)
  | '\\' :: rest => .segments (segments special (if special then rest else '\\' :: rest))
  | rest => .segments (segments special rest)

/-- Query and fragment. -/
def splitTail (special : Bool) (cs : List Char) : Option String × Option String :=
  let (query, fragment) := splitAtFirst (· = '#') cs
  let query := match query with
    | '?' :: q => some (encodePart (inQuerySet special) q)
    | _ => none
  let fragment := match fragment with
    | _ :: f => some (encodePart inFragmentSet f)
    | [] => none
  (query, fragment)

/-- Whether a character ends a path. -/
def endsPath (c : Char) : Bool := c = '?' || c = '#'

/-- What follows the slashes of a URL with a host. -/
def withAuthority? (scheme : String) (cs : List Char) : Option Url := do
  let special := isSpecial scheme
  let (before, after) := splitAtFirst (endsAuthority special) cs
  let a ← authority? scheme before
  let (path, tail) := splitAtFirst endsPath after
  let (query, fragment) := splitTail special tail
  return { scheme, username := a.username, password := a.password, host := some a.host,
           port := a.port, path := hierarchicalPath special path, query, fragment }

/-- What follows the scheme of a URL that has no host. -/
def withoutAuthority (scheme : String) (cs : List Char) : Url :=
  let (path, tail) := splitAtFirst endsPath cs
  let (query, fragment) := splitTail false tail
  let path := match path with
    | '/' :: rest => .segments (segments false rest)
    | text => .opaqueText (encodePart inControls text)
  { scheme, username := "", password := "", host := none, port := none, path, query, fragment }

/-- What follows the scheme of a file's URL: the host may be missing, and a local one is not
    named. -/
def ofFile? (cs : List Char) : Option Url := do
  let slash (c : Char) : Bool := c = '/' || c = '\\'
  let (hostText, rest) := match cs with
    | a :: b :: more =>
      if slash a && slash b then splitAtFirst (endsAuthority true) more else ([], cs)
    | _ => ([], cs)
  let host ← if hostText.isEmpty then some (.domain "") else Host.parse? hostText
  let host := if host = .domain "localhost" then .domain "" else host
  let (path, tail) := splitAtFirst endsPath rest
  let (query, fragment) := splitTail true tail
  return { scheme := "file", username := "", password := "", host := some host, port := none,
           path := hierarchicalPath true path, query, fragment }

/-- Reads an absolute URL. -/
def parse? (s : String) : Option Url := do
  let (scheme, rest) ← splitScheme (tidy s.toList)
  if scheme = "file" then ofFile? rest
  else if isSpecial scheme then
    withAuthority? scheme (rest.dropWhile fun c => c = '/' || c = '\\')
  else
    match rest with
    | '/' :: '/' :: more => withAuthority? scheme more
    | other => return withoutAuthority scheme other

end AssetOracle.Url
