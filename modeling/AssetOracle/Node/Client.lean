import AssetOracle.Chain.Basic
import AssetOracle.Metrics
import AssetOracle.Node.Error
import AssetOracle.Policy.Job

/-!
# Clients

What can be asked of a node for one asset, whatever its kind: the state of its chain, the balance
of an address, a transaction, and for some nodes the import of an address. A `Client` says how
each of these would end if it were asked now, and after what time.
-/

namespace AssetOracle

/-- An import that takes its course: the work itself, and what is counted on the way. -/
structure Import where
  job : Job (NodeResult Unit)
  metrics : List (Duration × Metric) := []

/-- A node as it answers for one asset. -/
structure Client where
  asset : String
  info : Job (NodeResult ChainState)
  balance : String → Job (NodeResult Balance)
  transaction : String → Job (NodeResult Transaction)
  importer : Option (String → Import) := none

/-- One use of a client. -/
inductive Client.Call where
  | info (asset : String)
  | balance (asset address : String)
  | transaction (asset id : String)
  | importing (asset address : String)
deriving DecidableEq, Repr

/-- The error of a client that cannot import addresses. -/
def Client.cannotImport (c : Client) : NodeError := .unsupported c.asset importOperation

/-- Imports an address through a client, which fails at once if the client cannot. -/
def Client.importAddress (c : Client) (address : String) : Import :=
  match c.importer with
  | some importer => importer address
  | none => { job := .instant (.error c.cannotImport) }

end AssetOracle
