import AssetOracle.Bitcoin.Reply
import AssetOracle.Chain.Confirmation
import AssetOracle.Node.Error
import AssetOracle.Policy.Converge
import AssetOracle.Rpc.Client

/-!
# Output-based nodes

The operations on a node whose transactions spend outputs of earlier ones. A transaction's sender
is the payee of the output that its first input spends, which takes a second look-up. An import of
an address may block the node for long, so it has a channel of its own without a limit and is
waited for as a slow operation, twice if need be.
-/

namespace AssetOracle.Bitcoin

open Rpc (Talk Channel Ask)

/-- The channels to one node: for calls that are waited for in full, and for imports. -/
structure Link where
  ordinary : Channel
  importing : Channel
deriving DecidableEq

/-- A node as it is asked for one asset. -/
structure Client where
  asset : String
  link : Link
  importing : SlowOperation
deriving DecidableEq

/-- Outputs with fewer confirmations are not counted. -/
def minConfirmations : Nat := 1

/-- Outputs with more confirmations are not counted. -/
def maxConfirmations : Nat := 9999999

/-- The code of a node's refusal to import while an import is running. -/
def walletBusy : Int := -4

/-- The sum of amounts as a text. -/
def totalText (amounts : List Decimal.Binary64) : String :=
  amountText (Decimal.Binary64.sum amounts)

namespace Client

/-- An error of this asset's node. -/
def failed (c : Client) (operation : String) (cause : Cause) : NodeError :=
  .failed c.asset operation cause

/-- A call whose failure is an error of an operation. -/
def call {α : Type} (c : Client) (operation method : String) (params : List Json)
    (decoder : Decoder α) : Talk (NodeResult α) := do
  let reply ← Rpc.call c.link.ordinary method params decoder
  return reply.mapError fun failure => c.failed operation (.rpc failure)

/-- The state that a node reports. -/
def chainState (info : BlockchainInfo) : ChainState :=
  ⟨info.chain, info.blocks, info.bestBlockHash⟩

/-- The state of the chain. -/
def info (c : Client) : Talk (NodeResult ChainState) := do
  let reply ← c.call infoOperation "getblockchaininfo" [] BlockchainInfo.decode
  return reply.map chainState

/-- The sum of the unspent outputs of an address. -/
def balance (c : Client) (address : String) : Talk (NodeResult Balance) := do
  let params : List Json :=
    [.nat minConfirmations, .nat maxConfirmations, .array [.text address]]
  let reply ← c.call balanceOperation "listunspent" params (Decoder.list Unspent.decode)
  return reply.map fun unspent => .single c.asset (totalText (unspent.map (·.amount)))

/-- Looks a transaction up. -/
def rawTransaction (c : Client) (id : String) : Talk (NodeResult RawTransaction) :=
  c.call transactionOperation "getrawtransaction" [.text id, .nat 1] RawTransaction.decode

/-- The payee of an output of a transaction. -/
def payeeOf (t : RawTransaction) (index : Nat) : Option String :=
  t.outputs[index]?.bind (·.script.payee)

/-- The first payee among the outputs of a transaction. -/
def recipientOf (t : RawTransaction) : String :=
  (t.outputs.findSome? (·.script.payee)).getD ""

/-- A transaction whose sender is known. -/
def transactionFrom (t : RawTransaction) (sender : String) : Transaction where
  id := t.id
  sender := sender
  recipient := recipientOf t
  value := totalText (t.outputs.map (·.value))
  confirmation := .ofObserved (t.confirmations.getD 0)

/-- The payee of the output that an input spends; nobody for an input that spends none. -/
def sender (c : Client) (input : Input) : Talk (NodeResult String) :=
  match input.transaction, input.output with
  | some id, some index => do
    match ← c.rawTransaction id with
    | .error e => return .error e
    | .ok funding =>
      match payeeOf funding index with
      | some payee => return .ok payee
      | none =>
        return .error (c.failed transactionOperation
          (.text ("funding output " ++ id ++ ":" ++ toString index ++ " has no address")))
  | _, _ => return .ok ""

/-- A transaction with its sender. -/
def transaction (c : Client) (id : String) : Talk (NodeResult Transaction) := do
  match ← c.rawTransaction id with
  | .error e => return .error e
  | .ok t =>
    match t.inputs.head? with
    | none => return .error (c.failed transactionOperation (.text "transaction has no inputs"))
    | some input => return (← c.sender input).map (transactionFrom t)

/-- Asks a node to watch an address and to look for its past. -/
def watch (c : Client) (address : String) : Talk (Except Rpc.Failure Json) :=
  Rpc.call c.link.importing "importaddress" [.text address, .text "", .bool true] Decoder.any

/-- What the reply to an import means. A node that is busy importing has the request already. -/
def importState (c : Client) : Except Rpc.Failure Json → NodeResult OperationState
  | .ok _ => .ok .completed
  | .error (.refused code message) =>
    if code = walletBusy then .ok .alreadyInProgress
    else .error (c.failed importOperation (.rpc (.refused code message)))
  | .error failure => .error (c.failed importOperation (.rpc failure))

/-- The call of one attempt at an import. -/
def importCall (c : Client) (address : String) : Talk (NodeResult OperationState) := do
  return c.importState (← c.watch address)

/-- Attempt `n` at an import, which waits for its call as a slow operation. -/
def importOnce (c : Client) (node : Talk.Node) (address : String) (n : Nat) : Settled :=
  c.importing.run c.asset ((c.importCall address).run node n).job

/-- An import with up to two attempts; `node` says how the node reacts to each of them. -/
def importAddress (c : Client) (node : Talk.Node) (address : String) : Converged :=
  converge importAttempts (c.importOnce node address)

/-- The calls that an import makes, each with the moment at which it is made. -/
def importCalls (c : Client) (node : Talk.Node) (address : String) : List (Duration × Ask) :=
  (c.importAddress node address).starts.zipIdx.flatMap fun (start, n) =>
    ((c.importCall address).run node n).calls.map fun (ask, _) => (start, ask)

end Client

end AssetOracle.Bitcoin
