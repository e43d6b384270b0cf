import AssetOracle.Document.Decoder

/-!
# Configuration

The settings of the service: where it listens, how long it waits, how it is observed, and the
nodes it fronts. Every section and every field of a section has a default; of a node only its
asset id and its kind have to be given.
-/

namespace AssetOracle

open Decoder (record)

/-- Where the service listens. -/
structure Listener where
  address : String := "0.0.0.0:8080"
deriving DecidableEq, Repr

/-- How many seconds the service waits for a request to be answered, for a node's reply, and for
    an address import. -/
structure Timeouts where
  request : UInt64 := 30
  rpc : UInt64 := 3
  importing : UInt64 := 3
deriving DecidableEq, Repr

/-- How the service reports on itself. -/
structure Observability where
  logLevel : String := "info"
  jsonLogs : Bool := false
  metricsEnabled : Bool := false
  metricsAddress : String := "0.0.0.0:9090"
deriving DecidableEq, Repr

/-- What protocol a node speaks. -/
inductive NodeKind where
  | bitcoin
  | ripple
  | evm
  | erc20
deriving DecidableEq, Repr

/-- One asset and the node it is asked of. -/
structure NodeConfig where
  asset : String
  kind : NodeKind
  url : Option String := none
  urlVariable : Option String := none
  user : Option String := none
  password : Option String := none
  chain : Option String := none
  contract : Option String := none
deriving DecidableEq, Repr

/-- All settings. -/
structure Config where
  listener : Listener := {}
  timeouts : Timeouts := {}
  observability : Observability := {}
  nodes : List NodeConfig := []
deriving DecidableEq, Repr

namespace Listener

/-- Reads the section on listening, with its default. -/
def decode : Decoder Listener :=
  (record "ListenerConfig" [
    .withDefault "bind_address" Decoder.text ({} : Listener).address]).map
    fun (address, ()) => { address }

/-- The section on listening, in full. -/
def encode (l : Listener) : Json := .ofMembers [("bind_address", .text l.address)]

end Listener

namespace Timeouts

/-- Reads the section on waiting, with its defaults. -/
def decode : Decoder Timeouts :=
  (record "TimeoutConfig" [
    .withDefault "request_secs" Decoder.word ({} : Timeouts).request,
    .withDefault "rpc_secs" Decoder.word ({} : Timeouts).rpc,
    .withDefault "import_secs" Decoder.word ({} : Timeouts).importing]).map
    fun (request, rpc, importing, ()) => { request, rpc, importing }

/-- The section on waiting, in full. -/
def encode (t : Timeouts) : Json :=
  .ofMembers [("request_secs", .nat t.request.toNat), ("rpc_secs", .nat t.rpc.toNat),
    ("import_secs", .nat t.importing.toNat)]

end Timeouts

namespace Observability

/-- Reads the section on reporting, with its defaults. -/
def decode : Decoder Observability :=
  (record "ObservabilityConfig" [
    .withDefault "log_level" Decoder.text ({} : Observability).logLevel,
    .withDefault "json_logs" Decoder.bool ({} : Observability).jsonLogs,
    .withDefault "metrics_enabled" Decoder.bool ({} : Observability).metricsEnabled,
    .withDefault "metrics_address" Decoder.text ({} : Observability).metricsAddress]).map
    fun (logLevel, jsonLogs, metricsEnabled, metricsAddress, ()) =>
      { logLevel, jsonLogs, metricsEnabled, metricsAddress }

/-- The section on reporting, in full. -/
def encode (o : Observability) : Json :=
  .ofMembers [("log_level", .text o.logLevel), ("json_logs", .bool o.jsonLogs),
    ("metrics_enabled", .bool o.metricsEnabled), ("metrics_address", .text o.metricsAddress)]

end Observability

namespace NodeKind

/-- The kinds and their names. -/
def names : List (String × NodeKind) :=
  [("bitcoin", .bitcoin), ("ripple", .ripple), ("evm", .evm), ("erc20", .erc20)]

/-- The name of a kind. -/
def name : NodeKind → String
  | .bitcoin => "bitcoin"
  | .ripple => "ripple"
  | .evm => "evm"
  | .erc20 => "erc20"

/-- Reads a kind by its name. -/
def decode : Decoder NodeKind := Decoder.variant names

theorem lookup_name (k : NodeKind) : names.lookup k.name = some k := by
  cases k <;> decide

end NodeKind

namespace NodeConfig

/-- Reads a node, of which only the asset id and the kind have to be there. -/
def decode : Decoder NodeConfig :=
  (record "NodeConfig" [
    .required "asset_id" Decoder.text,
    .required "kind" NodeKind.decode,
    .optional "url" Decoder.text,
    .optional "url_env" Decoder.text,
    .optional "rpc_user" Decoder.text,
    .optional "rpc_pass" Decoder.text,
    .optional "chain" Decoder.text,
    .optional "contract" Decoder.text]).map
    fun (asset, kind, url, urlVariable, user, password, chain, contract, ()) =>
      { asset, kind, url, urlVariable, user, password, chain, contract }

/-- A text or null. -/
def encodeOptional : Option String → Json
  | some s => .text s
  | none => .null

/-- A node with all its settings; those that are absent are null. -/
def encode (n : NodeConfig) : Json :=
  .ofMembers [("asset_id", .text n.asset), ("kind", .text n.kind.name),
    ("url", encodeOptional n.url), ("url_env", encodeOptional n.urlVariable),
    ("rpc_user", encodeOptional n.user), ("rpc_pass", encodeOptional n.password),
    ("chain", encodeOptional n.chain), ("contract", encodeOptional n.contract)]

end NodeConfig

namespace Config

/-- Reads all settings; a section that is left out has its defaults. -/
def decode : Decoder Config :=
  (record "OracleConfig" [
    .withDefault "listener" Listener.decode {},
    .withDefault "timeouts" Timeouts.decode {},
    .withDefault "observability" Observability.decode {},
    .withDefault "nodes" (Decoder.list NodeConfig.decode) []]).map
    fun (listener, timeouts, observability, nodes, ()) =>
      { listener, timeouts, observability, nodes }

/-- All settings, in full. -/
def encode (c : Config) : Json :=
  .ofMembers [("listener", c.listener.encode), ("timeouts", c.timeouts.encode),
    ("observability", c.observability.encode), ("nodes", .array (c.nodes.map (·.encode)))]

end Config

end AssetOracle
