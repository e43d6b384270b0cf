import AssetOracle.Proofs.Chain.Wire
import AssetOracle.Registry.Node

/-!
# Registered nodes that are read back

The decoder of a listing's entry gives back what was encoded; an entry without the state of its
chain stays one without it.
-/

namespace AssetOracle

open Decoder (decode_ofMembers inverts_text inverts_bool)
open Json (Portable)

variable {depth : Nat}

/-- The state of a chain is an object, and no null. -/
theorem ChainState.optional_encode {dialect : Dialect} (s : ChainState) :
    Decoder.optional decode dialect s.encode.toDocument = .ok (some s) := by
  have hnull : s.encode.toDocument ≠ .null := by
    rw [encode, Json.ofMembers, Json.toDocument]
    exact Document.noConfusion
  rw [Decoder.optional_of_ne_null hnull, inverts_decode dialect s]
  rfl

theorem RegisteredNode.nodup_members (n : RegisteredNode) :
    (([("assetId", Json.text n.asset), ("running", Json.bool n.running)] ++
      Json.memberOf "info" ChainState.encode n.info).map (·.1)).Nodup := by
  cases n.info <;> simp [Json.memberOf]

theorem RegisteredNode.inverts_decode : decode.Inverts encode := by
  intro dialect n
  refine decode_ofMembers (by decide) n.nodup_members ⟨(n.asset, n.running, n.info, ()), rfl, ?_⟩
  cases n.info <;>
    simp [Row.Reads, Field.Reads, Field.required, Field.optional, Field.withDefault, Keyed.find?,
      Json.memberOf, inverts_text dialect, inverts_bool dialect, ChainState.optional_encode]

theorem RegisteredNode.get?_info (n : RegisteredNode) :
    n.encode.get? "info" = n.info.map ChainState.encode := by
  rw [encode, Json.get?_ofMembers n.nodup_members]
  cases n.info <;> simp [Json.memberOf, Keyed.find?]

theorem RegisteredNode.portable_encode (n : RegisteredNode) : Portable (depth + 2) n.encode := by
  apply Portable.ofMembers
  cases n.info <;>
    simp [Json.memberOf, Portable.text, Portable.bool, ChainState.portable_encode]

end AssetOracle
