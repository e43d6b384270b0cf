import AssetOracle.Duration
import AssetOracle.Json.Printer
import AssetOracle.Text.Base64
import AssetOracle.Url.Parser

/-!
# Channels

A channel is one client of one node: where its requests go, with which credentials, how long it
waits, and in which of the two dialects of JSON-RPC it speaks. Channels are told apart by their
numbers, because each counts its own requests. A `Request` is a call as it is sent.
-/

namespace AssetOracle.Rpc

/-- The two ways of writing a call. -/
inductive Protocol where
  | plain
  | evm
deriving DecidableEq

/-- A user name and a password. -/
structure Credentials where
  user : String
  password : Option String
deriving DecidableEq

/-- One client of one node. -/
structure Channel where
  number : Nat
  protocol : Protocol
  endpoint : Url
  credentials : Option Credentials := none
  limit : Option Duration := none
deriving DecidableEq

/-- A method with its parameters. -/
structure Call where
  method : String
  params : List Json

/-- A call on a channel. -/
structure Ask where
  channel : Channel
  call : Call

/-- A call as it is sent: with its number, and with the headers that carry credentials. -/
structure Request where
  endpoint : Url
  authorization : List String
  id : Nat
  body : Json

/-- The header that carries credentials. -/
def Credentials.header (c : Credentials) : String :=
  "Basic " ++ String.ofList
    (Text.Base64.encode (Text.Utf8.encode (c.user ++ ":" ++ c.password.getD "")))

/-- The credentials in a URL, if its user name is a text. A password that is none is left out. -/
def urlCredentials (u : Url) : Option Credentials := do
  let user ← Text.Utf8.decode? (Text.Percent.decode u.username)
  let password :=
    if u.password.isEmpty then none else Text.Utf8.decode? (Text.Percent.decode u.password)
  if user.isEmpty ∧ password.isNone then none else some ⟨user, password⟩

/-- Where requests to a URL go: credentials are taken out of the URL. -/
def requestUrl (u : Url) : Url :=
  if (urlCredentials u).isSome then { u with username := "", password := "" } else u

/-- The credentials that a channel's requests carry: those in its URL, then its own. -/
def Channel.senders (c : Channel) : List Credentials :=
  (urlCredentials c.endpoint).toList ++ c.credentials.toList

/-- The number of a channel's first request. -/
def Protocol.firstId : Protocol → Nat
  | .plain => 1
  | .evm => 0

/-- The body of a call. Without parameters the second dialect leaves them out. -/
def Protocol.body (p : Protocol) (id : Nat) (call : Call) : Json :=
  match p with
  | .plain =>
    .ofMembers [("jsonrpc", .text "1.0"), ("id", .nat id), ("method", .text call.method),
      ("params", .array call.params)]
  | .evm =>
    .ofMembers ([("jsonrpc", .text "2.0"), ("id", .nat id), ("method", .text call.method)] ++
      if call.params.isEmpty then [] else [("params", .array call.params)])

/-- A call as it is sent under a number. -/
def Ask.request (ask : Ask) (id : Nat) : Request where
  endpoint := requestUrl ask.channel.endpoint
  authorization := ask.channel.senders.map Credentials.header
  id := id
  body := ask.channel.protocol.body id ask.call

/-- How many requests each channel has sent. -/
abbrev Counters := Nat → Nat

/-- Before any request. -/
def Counters.start : Counters := fun _ => 0

/-- Counts one more request of a channel. -/
def Counters.next (counters : Counters) (channel : Channel) : Counters :=
  fun n => if n = channel.number then counters n + 1 else counters n

/-- The number that the next request of a channel gets. -/
def Counters.id (counters : Counters) (channel : Channel) : Nat :=
  channel.protocol.firstId + counters channel.number

/-- The requests that calls are sent as, in order, each numbered by its own channel. -/
def stamp (counters : Counters) : List Ask → List Request
  | [] => []
  | ask :: asks => ask.request (counters.id ask.channel) :: stamp (counters.next ask.channel) asks

end AssetOracle.Rpc
