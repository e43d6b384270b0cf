import AssetOracle.Url.Host

/-!
# URLs

A parsed URL and its text. Its parts are stored as they are printed: lower-case scheme and host,
no default port, no dot segments, and escapes for the characters that a part may not hold.
-/

namespace AssetOracle

/-- The path of a URL: a list of segments, or a text that is not divided. -/
inductive Url.Path where
  | segments (names : List String)
  | opaqueText (text : String)
deriving DecidableEq

/-- A URL. -/
structure Url where
  scheme : String
  username : String
  password : String
  host : Option Host
  port : Option Nat
  path : Url.Path
  query : Option String
  fragment : Option String
deriving DecidableEq

namespace Url

/-- The schemes whose URLs always have a host, with their default ports. -/
def hostedSchemes : List (String × Nat) :=
  [("http", 80), ("https", 443), ("ws", 80), ("wss", 443), ("ftp", 21)]

/-- Whether a scheme is one of those that the standard treats apart. -/
def isSpecial (scheme : String) : Bool :=
  scheme = "file" || (hostedSchemes.lookup scheme).isSome

/-- The text of the path. -/
def Path.render : Path → String
  | .segments names => String.join (names.map ("/" ++ ·))
  | .opaqueText text => text

/-- User name and password as they stand before the host. -/
def credentialText (u : Url) : String :=
  if u.username.isEmpty ∧ u.password.isEmpty then ""
  else u.username ++ (if u.password.isEmpty then "" else ":" ++ u.password) ++ "@"

/-- The text between scheme and path. A path that would be read as a host is set off by a dot. -/
def authorityText (u : Url) : String :=
  match u.host, u.path with
  | some host, _ =>
    "//" ++ u.credentialText ++ host.render ++
      match u.port with
      | some port => ":" ++ toString port
      | none => ""
  | none, .segments ("" :: _ :: _) => "/."
  | none, _ => ""

/-- The text of a URL. -/
def render (u : Url) : String :=
  u.scheme ++ ":" ++ u.authorityText ++ u.path.render ++
    (match u.query with
      | some query => "?" ++ query
      | none => "") ++
    match u.fragment with
    | some fragment => "#" ++ fragment
    | none => ""

/-- The path and query, as a request names them. -/
def target (u : Url) : String :=
  u.path.render ++
    match u.query with
    | some query => "?" ++ query
    | none => ""

end Url

end AssetOracle
