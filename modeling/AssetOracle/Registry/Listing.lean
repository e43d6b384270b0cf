import AssetOracle.Node.Client
import AssetOracle.Registry.Basic
import AssetOracle.Registry.Node

/-!
# Listings

All registered nodes in the order of their keys, with the states of their chains if those are
wanted. All nodes are asked at the same time, each for its own entry: a node that fails leaves its
entry without a state and touches no other entry. The listing is complete when the last node has
ended.
-/

namespace AssetOracle

/-- The entries of a listing, how long it takes (without end if a node never ends), what is
    counted once it is complete, and the nodes that are asked. -/
structure Listing where
  nodes : List RegisteredNode
  duration : Option Duration
  metrics : List Metric
  calls : List Client.Call

namespace Listing

/-- The state that a node answered with, if it did. -/
def stateOf (ending : Ending (NodeResult ChainState)) : Option ChainState :=
  match ending with
  | .returned (.ok state) => some state
  | _ => none

/-- The entry of a node that has ended. -/
def entryOf (key : String) (ending : Ending (NodeResult ChainState)) : RegisteredNode :=
  { RegisteredNode.bare key with info := stateOf ending }

/-- What is counted of a node that has ended. -/
def metricOf (key : String) (ending : Ending (NodeResult ChainState)) : Metric :=
  .nodeInfo key (stateOf ending).isSome

/-- The later of two moments, if both come. -/
def later (a b : Option Duration) : Option Duration :=
  match a, b with
  | some a, some b => some (max a b)
  | _, _ => none

/-- The listing of entries without asking a node. -/
def bare (entries : List (String × Client)) : Listing where
  nodes := entries.map fun (key, _) => .bare key
  duration := some .zero
  metrics := []
  calls := []

/-- The listing of entries with the states of their chains. -/
def enriched (entries : List (String × Client)) : Listing where
  nodes := entries.map fun (key, client) => entryOf key client.info.ending
  duration := entries.foldr (fun (_, client) last => later client.info.duration last) (some .zero)
  metrics := entries.map fun (key, client) => metricOf key client.info.ending
  calls := entries.map fun (_, client) => .info client.asset

end Listing

/-- Lists the nodes, with the states of their chains if `enrich` is set. -/
def Registry.list (r : Registry Client) (enrich : Bool) : Listing :=
  if enrich then .enriched r.entries else .bare r.entries

end AssetOracle
