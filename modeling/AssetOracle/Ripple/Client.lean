import AssetOracle.Chain.Confirmation
import AssetOracle.Node.Error
import AssetOracle.Ripple.Reply
import AssetOracle.Rpc.Client

/-!
# Ledger nodes

The operations on a node of a ledger, whose transactions are final as soon as a ledger is
validated. Such a node reports errors of its own inside successful replies.
-/

namespace AssetOracle.Ripple

open Rpc (Talk Channel)

/-- A node as it is asked for one asset. -/
structure Client where
  asset : String
  chain : String
  channel : Channel
deriving DecidableEq

/-- The error that a reply reports: its code, and its message if it has one. -/
def reportedError (result : Json) : Option String :=
  if (result.get? "status").bind Json.text? = some "error" then
    let code := ((result.get? "error").bind Json.text?).getD "unknown"
    let message := ((result.get? "error_message").bind Json.text?).getD code
    some (code ++ ": " ++ message)
  else none

namespace Client

/-- An error of this asset's node. -/
def failed (c : Client) (operation : String) (cause : Cause) : NodeError :=
  .failed c.asset operation cause

/-- The value of a reply to a call for an operation. -/
def interpret {α : Type} (c : Client) (operation : String) (decoder : Decoder α)
    (reply : Except Rpc.Failure Json) : NodeResult α :=
  match reply with
  | .error failure => .error (c.failed operation (.rpc failure))
  | .ok result =>
    match reportedError result with
    | some message => .error (c.failed operation (.text message))
    | none => (result.decode decoder).mapError fun e => c.failed operation (.shape e)

/-- A call for an operation; its parameters are one object. -/
def request {α : Type} (c : Client) (operation method : String) (params : Json)
    (decoder : Decoder α) : Talk (NodeResult α) := do
  let reply ← Rpc.call c.channel method [params] Decoder.any
  return c.interpret operation decoder reply

/-- The ledger that a node's state is taken from: the last validated one, or else the last that
    was closed. -/
def chainState (c : Client) (info : ServerInfo) : NodeResult ChainState :=
  match info.validated.or info.closed with
  | some ledger => .ok ⟨c.chain, ledger.number, ledger.hash⟩
  | none => .error (c.failed infoOperation (.text "no ledger reported"))

/-- The state of the chain. -/
def info (c : Client) : Talk (NodeResult ChainState) := do
  let reply ← c.request infoOperation "server_info" (.ofMembers []) decodeServerInfo
  return reply.bind c.chainState

/-- A number of drops as an amount. -/
def amountOfDrops (c : Client) (operation what drops : String) : NodeResult String :=
  match drops? drops with
  | some n => .ok (dropsText n)
  | none => .error (c.failed operation (.text ("malformed " ++ what ++ " '" ++ drops ++ "'")))

/-- What an account holds. -/
def balance (c : Client) (address : String) : Talk (NodeResult Balance) := do
  let params := Json.ofMembers [("account", .text address), ("ledger_index", .text "validated")]
  let reply ← c.request balanceOperation "account_info" params decodeAccountBalance
  return (reply.bind (c.amountOfDrops balanceOperation "balance")).map (.single c.asset)

/-- The value of a payment. -/
def paymentValue (c : Client) : Option Amount → NodeResult String
  | some (.drops drops) => c.amountOfDrops transactionOperation "amount" drops
  | some (.issued _ _ value) => .ok value
  | none => .ok "0"

/-- A payment as a transaction. -/
def transactionOf (c : Client) (p : Payment) : NodeResult Transaction :=
  (c.paymentValue p.amount).map fun value =>
    { id := p.hash, sender := p.account, recipient := p.destination.getD "", value,
      confirmation := .ofFinality p.validated }

/-- A transaction. -/
def transaction (c : Client) (id : String) : Talk (NodeResult Transaction) := do
  let params := Json.ofMembers [("transaction", .text id)]
  let reply ← c.request transactionOperation "tx" params Payment.decode
  return reply.bind c.transactionOf

end Client

end AssetOracle.Ripple
