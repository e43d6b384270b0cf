import AssetOracle.Config.Endpoint
import AssetOracle.Evm.Bytes
import AssetOracle.Text.Lowercase
import AssetOracle.Url.Parser

/-!
# Validation

The rules that a configuration has to keep, and every way in which it breaks them. Each rule is
checked on its own, so that all violations are reported at once; only a node without an id is not
looked at any further.
-/

namespace AssetOracle

/-- One broken rule. -/
inductive Violation where
  | bindAddress (address : String)
  | metricsAddress (address : String)
  | zeroTimeout (name : String)
  | emptyAssetId (index : Nat)
  | duplicateAssetId (asset : String)
  | invalidUrl (asset url : String)
  | unexpectedCredentials (asset : String)
  | missingContract (asset : String)
  | invalidContract (asset contract : String)
  | unexpectedContract (asset : String)
deriving DecidableEq, Repr

/-- The words for a broken rule. -/
def Violation.message : Violation → String
  | .bindAddress address => "invalid bind address '" ++ address ++ "'"
  | .metricsAddress address => "invalid metrics address '" ++ address ++ "'"
  | .zeroTimeout name => "timeout '" ++ name ++ "' must be greater than zero"
  | .emptyAssetId index => "node #" ++ toString index ++ " has an empty asset_id"
  | .duplicateAssetId asset => "asset_id '" ++ asset ++ "' is configured more than once"
  | .invalidUrl asset url => "node '" ++ asset ++ "' has an invalid url '" ++ url ++ "'"
  | .unexpectedCredentials asset =>
    "node '" ++ asset ++ "' sets rpc credentials but is not a bitcoin node"
  | .missingContract asset => "erc20 node '" ++ asset ++ "' has no contract address"
  | .invalidContract asset contract =>
    "node '" ++ asset ++ "' has an invalid contract address '" ++ contract ++ "'"
  | .unexpectedContract asset =>
    "node '" ++ asset ++ "' sets a contract but is not an erc20 node"

/-- A violation, if a condition holds. -/
def violationIf (condition : Bool) (violation : Violation) : List Violation :=
  if condition then [violation] else []

/-- Whether a text is a socket address. -/
def isSocketAddress (s : String) : Bool := (Net.SocketAddress.parse? s).isSome

/-- Whether a text is a URL. -/
def isUrl (s : String) : Bool := (Url.parse? s).isSome

/-- Whether a text is an address of a contract. -/
def isContract (s : String) : Bool := (Evm.Address.parse s).toOption.isSome

/-- The addresses that do not parse; that of the metrics page matters only if there is one. -/
def Listener.violations (l : Listener) : List Violation :=
  violationIf (!isSocketAddress l.address) (.bindAddress l.address)

/-- The metrics address that does not parse, if the page is enabled. -/
def Observability.violations (o : Observability) : List Violation :=
  violationIf (o.metricsEnabled && !isSocketAddress o.metricsAddress)
    (.metricsAddress o.metricsAddress)

/-- The timeouts that leave no time. -/
def Timeouts.violations (t : Timeouts) : List Violation :=
  violationIf (t.request = 0) (.zeroTimeout "request_secs") ++
    violationIf (t.rpc = 0) (.zeroTimeout "rpc_secs") ++
    violationIf (t.importing = 0) (.zeroTimeout "import_secs")

namespace NodeConfig

/-- The asset id without white space around it, which is the name used in violations. -/
def assetName (node : NodeConfig) : String := Text.trim node.asset

/-- The key under which asset ids have to be distinct. -/
def assetKey (node : NodeConfig) : String := Text.lowercase node.assetName

/-- Whether the node sets a user name or a password. -/
def hasCredentials (node : NodeConfig) : Bool := node.user.isSome || node.password.isSome

/-- What is wrong with the contract of a node. -/
def contractViolations (node : NodeConfig) : List Violation :=
  match node.kind, node.contract with
  | .erc20, none => [.missingContract node.assetName]
  | .erc20, some contract =>
    violationIf (!isContract contract) (.invalidContract node.assetName contract)
  | _, none => []
  | _, some _ => [.unexpectedContract node.assetName]

/-- What is wrong with a node that has an id, apart from the ids of other nodes. -/
def violations (env : Environment) (node : NodeConfig) : List Violation :=
  violationIf (!isUrl (node.endpoint env)) (.invalidUrl node.assetName (node.endpoint env)) ++
    violationIf (node.kind != .bitcoin && node.hasCredentials)
      (.unexpectedCredentials node.assetName) ++
    node.contractViolations

end NodeConfig

namespace Config

/-- What is wrong with nodes from position `index` on, when the keys in `seen` are taken. -/
def nodeViolations (env : Environment) (seen : List String) (index : Nat) :
    List NodeConfig → List Violation
  | [] => []
  | node :: rest =>
    if node.assetName.isEmpty then
      .emptyAssetId index :: nodeViolations env seen (index + 1) rest
    else
      violationIf (seen.contains node.assetKey) (.duplicateAssetId node.assetName) ++
        node.violations env ++
        nodeViolations env (node.assetKey :: seen) (index + 1) rest

/-- Everything that is wrong with a configuration. -/
def violations (env : Environment) (c : Config) : List Violation :=
  c.listener.violations ++ c.observability.violations ++ c.timeouts.violations ++
    nodeViolations env [] 0 c.nodes

/-- Whether a configuration keeps all rules. -/
def isValid (env : Environment) (c : Config) : Bool := (c.violations env).isEmpty

end Config

end AssetOracle
