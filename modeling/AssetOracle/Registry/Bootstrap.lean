import AssetOracle.Config.Endpoint
import AssetOracle.Node.Adapter
import AssetOracle.Registry.Basic

/-!
# Building the registry

From a configuration to a registry of adapters. Output-based nodes of one URL and the same
credentials share their channels, tokens share the channel of the first account-based node of
their URL. What depends on URLs of these nodes fails at once; the other checks are made when the
adapters are constructed one after the other, up to the first failure.
-/

namespace AssetOracle

open Rpc (Channel Credentials)

/-- Constructors that are run in order: the ids of those that ran, and the registry, or the error
    of the last one that ran. -/
structure Initialized (α : Type) where
  constructed : List String
  result : NodeResult (Registry α)

/-- Runs constructors in order and registers what they make; the first failure ends it. -/
def constructFrom {α : Type} (r : Registry α) : List (String × NodeResult α) → Initialized α
  | [] => ⟨[], .ok r⟩
  | (id, made) :: rest =>
    match made with
    | .error e => ⟨[id], .error e⟩
    | .ok client =>
      let later := constructFrom (r.register id client) rest
      ⟨id :: later.constructed, later.result⟩

/-- Builds a registry out of constructors. -/
def construct {α : Type} (entries : List (String × NodeResult α)) : Initialized α :=
  constructFrom .empty entries

/-- What the nodes before have opened: the channels of output-based nodes by URL, user and
    password, the channels of account-based nodes by URL, and the number of the next channel. -/
structure Sharing where
  links : List ((String × Option String × Option String) × Bitcoin.Link) := []
  hosts : List (String × Channel) := []
  next : Nat := 0

namespace Bootstrap

/-- The name of the chain of a node that names none. -/
def defaultChain : String := "main"

/-- How long a node's reply is waited for. -/
def rpcLimit (t : Timeouts) : Duration := .ofSeconds t.rpc.toNat

/-- How long an import is waited for. -/
def importOperationOf (t : Timeouts) : SlowOperation :=
  ⟨importOperation, .ofSeconds t.importing.toNat⟩

/-- The credentials of a user; a password counts only with a user. -/
def credentialsOf (user password : Option String) : Option Credentials :=
  user.map fun user => ⟨user, password⟩

/-- Opens the channels to an output-based node; imports wait without a limit. -/
def openLink (limit : Duration) (number : Nat) (endpoint : String)
    (credentials : Option Credentials) : NodeResult Bitcoin.Link := do
  let ordinary ← (Channel.open? number endpoint credentials (some limit)).mapError .invalidInput
  let importing ← (Channel.open? (number + 1) endpoint credentials none).mapError .invalidInput
  return ⟨ordinary, importing⟩

/-- The link of an output-based node: one that is open already, or a new one. -/
def linkFor (t : Timeouts) (s : Sharing) (endpoint : String) (node : NodeConfig) :
    NodeResult (Bitcoin.Link × Sharing) :=
  let key := (endpoint, node.user, node.password)
  match s.links.lookup key with
  | some link => .ok (link, s)
  | none => do
    let link ← openLink (rpcLimit t) s.next endpoint (credentialsOf node.user node.password)
    return (link, { s with links := s.links ++ [(key, link)], next := s.next + 2 })

/-- Opens the channel to an account-based node. -/
def openChannel (limit : Duration) (number : Nat) (endpoint : String) : NodeResult Channel :=
  (Evm.openChannel number endpoint limit).mapError .invalidInput

/-- A new channel to an account-based node, which later tokens may share. -/
def openHost (t : Timeouts) (s : Sharing) (endpoint : String) :
    NodeResult (Channel × Sharing) := do
  let channel ← openChannel (rpcLimit t) s.next endpoint
  let hosts :=
    if (s.hosts.lookup endpoint).isSome then s.hosts else s.hosts ++ [(endpoint, channel)]
  return (channel, { s with hosts, next := s.next + 1 })

/-- The channel of a token's chain: one that is open already, or a new one. -/
def hostFor (t : Timeouts) (s : Sharing) (endpoint : String) : NodeResult (Channel × Sharing) :=
  match s.hosts.lookup endpoint with
  | some channel => .ok (channel, s)
  | none => openHost t s endpoint

/-- Makes a ledger node's adapter. -/
def makeRipple (asset chain : String) (limit : Duration) (number : Nat) (endpoint : String) :
    NodeResult Ripple.Client := do
  let channel ← (Channel.open? number endpoint none (some limit)).mapError .invalidInput
  return ⟨asset, chain, channel⟩

/-- Makes a token of a chain. -/
def makeToken (asset : String) (channel : Channel) (contract : String) :
    NodeResult Evm.Token := do
  let address ← (Evm.Address.parse contract).mapError fun e =>
    .invalidInput ("invalid contract '" ++ contract ++ "': " ++ e.message)
  return ⟨asset, channel, address⟩

/-- The constructor of a node's adapter, and what later nodes may share. -/
def constructorOf (env : Environment) (t : Timeouts) (s : Sharing) (node : NodeConfig) :
    NodeResult (NodeResult Adapter × Sharing) :=
  let endpoint := node.endpoint env
  match node.kind with
  | .bitcoin => do
    let (link, s) ← linkFor t s endpoint node
    return (.ok (.bitcoin ⟨node.asset, link, importOperationOf t⟩), s)
  | .ripple =>
    let chain := node.chain.getD defaultChain
    .ok ((makeRipple node.asset chain (rpcLimit t) s.next endpoint).map .ripple,
      { s with next := s.next + 1 })
  | .evm => do
    let (channel, s) ← openHost t s endpoint
    return (.ok (.evm ⟨node.asset, channel⟩), s)
  | .erc20 => do
    let (channel, s) ← hostFor t s endpoint
    return ((makeToken node.asset channel (node.contract.getD "")).map .token, s)

/-- The constructors of the adapters of nodes. -/
def constructors (env : Environment) (t : Timeouts) (s : Sharing) :
    List NodeConfig → NodeResult (List (String × NodeResult Adapter))
  | [] => .ok []
  | node :: rest => do
    let (made, s) ← constructorOf env t s node
    let more ← constructors env t s rest
    return (node.asset, made) :: more

end Bootstrap

/-- The registry of a configuration. -/
def Config.registry (env : Environment) (c : Config) : NodeResult (Registry Adapter) := do
  let entries ← Bootstrap.constructors env c.timeouts {} c.nodes
  (construct entries).result

end AssetOracle
