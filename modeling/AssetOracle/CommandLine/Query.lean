import AssetOracle.CommandLine.Options
import AssetOracle.Http.Request
import AssetOracle.Http.Status
import AssetOracle.Rpc.Failure
import AssetOracle.Rpc.Talk
import AssetOracle.Url.Parser

/-!
# Queries from the command line

The command line that asks a running service: what it asks for, the request that this becomes,
and the report on the reply. Arguments become parts of a URL as they are, so that the URL's own
rules apply to them.
-/

namespace AssetOracle.CommandLine

open Http (Method)

/-- What the service is asked for. -/
inductive Query where
  | nodes (noinfo : Bool)
  | info (asset : String)
  | balance (asset address : String)
  | transaction (asset id : String)
  | importing (asset address : String)
deriving DecidableEq, Repr

/-- A service and what it is asked for. -/
structure Invocation where
  server : String
  query : Query
deriving DecidableEq, Repr

namespace Query

/-- The commands. -/
def commands : List String := ["nodes", "info", "balance", "tx", "import"]

/-- What the words after a command may be. -/
def grammar (command : String) : Grammar :=
  match command with
  | "nodes" => { flags := [{ name := "noinfo", takesValue := false }] }
  | "info" => { flags := [], words := 1 }
  | _ => { flags := [], words := 2 }

/-- The query of a command and the words after it. -/
def ofReading (command : String) (r : Reading) : Except Stop Query :=
  match command, r.words with
  | "nodes", [] => .ok (.nodes (r.has "noinfo"))
  | "info", [asset] => .ok (.info asset)
  | "balance", [asset, address] => .ok (.balance asset address)
  | "tx", [asset, id] => .ok (.transaction asset id)
  | "import", [asset, address] => .ok (.importing asset address)
  | _, _ => .error .misuse

/-- Reads the words after a command. -/
def read (command : String) (words : List String) : Except Stop Query := do
  let r ← (grammar command).read words
  let r ← r.settle
  ofReading command r

/-- What a query asks for, below the URL of a service. -/
def path : Query → String
  | .nodes _ => "/nodes"
  | .info asset => "/nodes/" ++ asset ++ "/info"
  | .balance asset address => "/nodes/" ++ asset ++ "/addrs/" ++ address ++ "/balance"
  | .transaction asset id => "/nodes/" ++ asset ++ "/txs/" ++ id
  | .importing asset _ => "/nodes/" ++ asset ++ "/addrs/import"

end Query

namespace Invocation

/-- The service that is asked if none is named. -/
def defaultServer : String := "http://localhost:8080"

/-- What may stand before and for a command. -/
def grammar : Grammar where
  flags := [{ name := "url", short := some 'u' }]
  commands := "help" :: Query.commands

/-- What words after `help` ask for: nothing, or one of the commands. -/
def help (words : List String) : Stop :=
  match words with
  | [] => .help
  | [word] => if grammar.commands.contains word then .help else .misuse
  | _ => .misuse

/-- Reads the words of a command line. -/
def read (words : List String) : Except Stop Invocation := do
  let r ← grammar.read words
  match r.command with
  | none => throw .misuse
  | some ("help", rest) => throw (help rest)
  | some (command, rest) =>
    let query ← Query.read command rest
    let r ← r.settle
    return ⟨(r.value? "url").getD defaultServer, query⟩

/-- A URL with one more pair in its query. -/
def withPair (u : Url) (name value : String) : Url :=
  let pair := name ++ "=" ++ value
  let query :=
    match u.query with
    | none => pair
    | some query => if query.isEmpty then pair else query ++ "&" ++ pair
  { u with query := some query }

/-- The URL that is asked, if the text is one: that of the service without the slashes at its
    end, with the path of the query. -/
def url? (i : Invocation) : Option Url := do
  let base := String.ofList (i.server.toList.reverse.dropWhile (· = '/')).reverse
  let url ← Url.parse? (base ++ i.query.path)
  if url.IsWeb then
    return match i.query with
      | .nodes noinfo => withPair url "noinfo" (toString noinfo)
      | _ => url
  else none

/-- The request that is sent to a URL. -/
def request (i : Invocation) (url : Url) : Http.Request :=
  match i.query with
  | .importing _ address =>
    { method := .post
      path := url.path.render
      query := url.query
      headers := [("content-type", "application/json")]
      body := Text.Utf8.encode (Json.ofMembers [("addr", .text address)]).compact }
  | _ => { method := .get, path := url.path.render, query := url.query }

end Invocation

/-- What a program leaves behind: its status, its output and its complaints. -/
structure Report where
  exit : Nat
  output : String := ""
  complaint : String := ""
deriving DecidableEq, Repr

namespace Report

/-- The text of a body: indented if it is JSON, and as it is otherwise. -/
def bodyText (body : List UInt8) : String :=
  let text := Text.Utf8.decodeLossy body
  match (Json.Source.ofText text).decode Decoder.any with
  | .ok value => value.pretty
  | .error _ => text

/-- The report on a reply. -/
def ofReply (r : Rpc.Reply) : Report :=
  let text := bodyText r.body ++ "\n"
  if r.isSuccess then { exit := 0, output := text }
  else
    { exit := 1
      complaint := "Error: oracle returned status " ++ Http.statusText r.status ++ "\n" ++ text }

/-- The report on a query without a reply. -/
def failed (reason : String) : Report := { exit := 1, complaint := "Error: " ++ reason ++ "\n" }

/-- The report on a query. `send` carries a request to a URL; it may find no reply. It has nothing
    to carry if the URL is too long. -/
def ofInvocation (send : Url → Http.Request → Option Rpc.Reply) (i : Invocation) : Report :=
  match i.url? with
  | none => failed "builder error"
  | some url =>
    if (Rpc.requestUrl url).IsShort then
      match send url (i.request url) with
      | some reply => ofReply reply
      | none => failed (unansweredMessage (Rpc.requestUrl url))
    else failed (unansweredMessage (Rpc.requestUrl url))

/-- What the program does with the words of its command line. `usage` is shown to who asks for
    help. -/
def ofWords (usage : String) (send : Url → Http.Request → Option Rpc.Reply)
    (words : List String) : Report :=
  match Invocation.read words with
  | .ok i => ofInvocation send i
  | .error .help => { exit := Stop.help.exit, output := usage }
  | .error .misuse => { exit := Stop.misuse.exit, complaint := usage }

end Report

end AssetOracle.CommandLine
