import AssetOracle.Chain.Wire

/-!
# Registered nodes

An entry of a listing: the key of an asset, and the state of its chain if it was asked for and
the node answered.
-/

namespace AssetOracle

open Decoder (record)

/-- One entry of a listing. -/
structure RegisteredNode where
  asset : String
  running : Bool
  info : Option ChainState
deriving DecidableEq, Repr

namespace RegisteredNode

/-- An entry without the state of the chain. -/
def bare (asset : String) : RegisteredNode := ⟨asset, true, none⟩

/-- An entry as an object; the state of the chain is left out if it is absent. -/
def encode (n : RegisteredNode) : Json :=
  .ofMembers ([("assetId", .text n.asset), ("running", .bool n.running)] ++
    Json.memberOf "info" ChainState.encode n.info)

/-- Reads an entry, in which the state of the chain may be left out. -/
def decode : Decoder RegisteredNode :=
  (record "RegisteredNode" [.required "assetId" Decoder.text, .required "running" Decoder.bool,
    .optional "info" ChainState.decode]).map
    fun (asset, running, info, ()) => ⟨asset, running, info⟩

end RegisteredNode

end AssetOracle
