import AssetOracle.Bitcoin.Client
import AssetOracle.Config.Basic
import AssetOracle.Evm.Client
import AssetOracle.Node.Client
import AssetOracle.Ripple.Client

/-!
# Adapters

The four kinds of nodes behind one interface. An adapter's operations are talks; against nodes
that react in a certain way they become the jobs of a `Client`.
-/

namespace AssetOracle

open Rpc (Talk)

/-- A node of some kind as it is asked for one asset. -/
inductive Adapter where
  | bitcoin (client : Bitcoin.Client)
  | ripple (client : Ripple.Client)
  | evm (client : Evm.Client)
  | token (token : Evm.Token)
deriving DecidableEq

namespace Adapter

/-- The asset that the node is asked for. -/
def asset : Adapter → String
  | .bitcoin c => c.asset
  | .ripple c => c.asset
  | .evm c => c.asset
  | .token t => t.asset

/-- The kind of the node. -/
def kind : Adapter → NodeKind
  | .bitcoin _ => .bitcoin
  | .ripple _ => .ripple
  | .evm _ => .evm
  | .token _ => .erc20

/-- The state of the chain. -/
def info : Adapter → Talk (NodeResult ChainState)
  | .bitcoin c => c.info
  | .ripple c => c.info
  | .evm c => c.info
  | .token t => t.info

/-- What an address holds. -/
def balance : Adapter → String → Talk (NodeResult Balance)
  | .bitcoin c => c.balance
  | .ripple c => c.balance
  | .evm c => c.balance
  | .token t => t.balance

/-- A transaction. -/
def transaction : Adapter → String → Talk (NodeResult Transaction)
  | .bitcoin c => c.transaction
  | .ripple c => c.transaction
  | .evm c => c.transaction
  | .token t => t.transaction

/-- The import of an address, for nodes that can watch addresses. -/
def importer? : Adapter → Option (Talk.Node → String → Converged)
  | .bitcoin c => some c.importAddress
  | _ => none

/-- What is counted of attempts that start at a moment, and when. -/
def waitMetrics (op : SlowOperation) (start : Duration) : List Settled → List (Duration × Metric)
  | [] => []
  | s :: rest =>
    (start + s.elapsed, op.metric s) :: waitMetrics op (start + s.elapsed) rest

/-- A series of attempts as an import. -/
def importOf (op : SlowOperation) (c : Converged) : Import where
  job := ⟨some c.elapsed, .returned (c.result.map fun _ => ())⟩
  metrics := waitMetrics op .zero c.attempts

/-- The adapter as it answers when nodes react in a certain way. -/
def client (a : Adapter) (node : Talk.Node) : Client where
  asset := a.asset
  info := (a.info.run node 0).job
  balance address := ((a.balance address).run node 0).job
  transaction id := ((a.transaction id).run node 0).job
  importer :=
    match a with
    | .bitcoin c => some fun address => importOf c.importing (c.importAddress node address)
    | _ => none

end Adapter

end AssetOracle
