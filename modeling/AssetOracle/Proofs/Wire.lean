import AssetOracle.Proofs.Config.Wire
import AssetOracle.Proofs.Http.Envelope

/-!
# Round trips

Whatever the service prints as JSON is read back as exactly what was printed: chain data, listings
and their entries, transactions in their envelope, and settings. So no two values are printed
alike, and what is absent is told from zero and from an empty value.
-/

namespace AssetOracle

open Http (dataBody listingData transactionData decodeListing decodeTransaction)
open Json (Portable)

variable {α : Type} {encode : α → Json} {decode : Decoder α}

/-- Whether every value is what its JSON is decoded as, given as text or as a value, so that no
    other value has its text. -/
structure Json.Carries (encode : α → Json) (decode : Decoder α) : Prop where
  ofText : ∀ x, (Source.ofText (encode x).compact).decode decode = .ok x
  ofValue : ∀ x, (encode x).decode decode = .ok x
  injective : Function.Injective fun x => (encode x).compact

/-- A decoder that gives back what was encoded does so from text too, if the text is one that the
    reader takes. -/
theorem Decoder.Inverts.carries (h : decode.Inverts encode)
    (hprint : ∀ x, Portable Json.maxDepth (encode x)) : Json.Carries encode decode := by
  have htext : ∀ x, (Json.Source.ofText (encode x).compact).decode decode = .ok x := by
    intro x
    rw [Json.decode_ofText_compact (hprint x), h]
  refine ⟨htext, fun x => h .jsonValue x, fun x y hxy => ?_⟩
  have hsame : (encode x).compact = (encode y).compact := hxy
  have hx := htext x
  rw [hsame, htext y] at hx
  exact (Except.ok.inj hx).symm

/-- All that the service prints of chains, listings and settings is read back as it was. A
    threshold, a count and a chain state are members exactly if they are there. -/
theorem wire_round_trip :
    Json.Carries ChainState.encode ChainState.decode ∧
    Json.Carries AssetBalance.encode AssetBalance.decode ∧
    Json.Carries Balance.encode Balance.decode ∧
    Json.Carries Confirmation.encode Confirmation.decode ∧
    Json.Carries Transaction.encode Transaction.decode ∧
    Json.Carries RegisteredNode.encode RegisteredNode.decode ∧
    Json.Carries (fun nodes => dataBody (listingData nodes)) decodeListing ∧
    Json.Carries (fun t => dataBody (transactionData t)) decodeTransaction ∧
    Json.Carries NodeConfig.encode NodeConfig.decode ∧
    Json.Carries Config.encode Config.decode ∧
    (∀ c : Confirmation, c.encode.get? "threshold" = c.threshold.map .word ∧
      c.encode.get? "value" = c.observed.map .word) ∧
    ∀ n : RegisteredNode, n.encode.get? "info" = n.info.map ChainState.encode :=
  ⟨ChainState.inverts_decode.carries fun s => s.portable_encode,
    AssetBalance.inverts_decode.carries fun b => b.portable_encode,
    Balance.inverts_decode.carries fun b => b.portable_encode,
    Confirmation.inverts_decode.carries fun c => c.portable_encode,
    Transaction.inverts_decode.carries fun t => t.portable_encode,
    RegisteredNode.inverts_decode.carries fun n => n.portable_encode,
    Http.inverts_decodeListing.carries fun nodes =>
      Http.portable_dataBody (Http.portable_listingData nodes),
    Http.inverts_decodeTransaction.carries fun t =>
      Http.portable_dataBody (Http.portable_transactionData t),
    NodeConfig.inverts_decode.carries fun n => n.portable_encode,
    Config.inverts_decode.carries fun c => c.portable_encode,
    fun c => ⟨c.get?_threshold, c.get?_observed⟩, RegisteredNode.get?_info⟩

end AssetOracle
