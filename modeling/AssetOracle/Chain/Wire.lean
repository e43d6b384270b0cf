import AssetOracle.Chain.Basic
import AssetOracle.Document.Decoder

/-!
# Chain data on the wire

The JSON form of chain data and its decoders. Absent confirmation numbers are left out.
-/

namespace AssetOracle

open Decoder (record)

/-- A member that is left out when there is nothing to say. -/
def Json.memberOf {α : Type} (name : String) (encode : α → Json) (value : Option α) :
    List (String × Json) :=
  match value with
  | some x => [(name, encode x)]
  | none => []

/-- A natural number of sixty-four bits. -/
def Json.word (n : UInt64) : Json := .nat n.toNat

namespace ChainState

/-- The state of a chain as an object. -/
def encode (s : ChainState) : Json :=
  .ofMembers [("chain", .text s.chain), ("block_height", .word s.height),
    ("current_block_hash", .text s.blockHash)]

/-- Reads the state of a chain, all of whose members have to be there. -/
def decode : Decoder ChainState :=
  (record "ChainState" [.required "chain" Decoder.text, .required "block_height" Decoder.word,
    .required "current_block_hash" Decoder.text]).map
    fun (chain, height, blockHash, ()) => ⟨chain, height, blockHash⟩

end ChainState

namespace AssetBalance

/-- The balance of one asset as an object. -/
def encode (b : AssetBalance) : Json :=
  .ofMembers [("asset", .text b.asset), ("balance", .text b.balance)]

/-- Reads the balance of one asset. -/
def decode : Decoder AssetBalance :=
  (record "AssetBalance" [.required "asset" Decoder.text,
    .required "balance" Decoder.text]).map
    fun (asset, balance, ()) => ⟨asset, balance⟩

end AssetBalance

namespace Balance

/-- Balances as an object, in their order. -/
def encode (b : Balance) : Json := .ofMembers [("assets", .array (b.assets.map (·.encode)))]

/-- Reads balances. -/
def decode : Decoder Balance :=
  (record "Balance" [.required "assets" (Decoder.list AssetBalance.decode)]).map
    fun (assets, ()) => ⟨assets⟩

end Balance

namespace Confirmation

/-- A confirmation as an object. A threshold or a count that is absent is left out, which tells
    it from zero. -/
def encode (c : Confirmation) : Json :=
  .ofMembers (Json.memberOf "threshold" .word c.threshold ++
    [("confirmed", .bool c.confirmed)] ++ Json.memberOf "value" .word c.observed)

/-- Reads a confirmation; threshold and count may be left out. -/
def decode : Decoder Confirmation :=
  (record "ConfirmationInfo" [.optional "threshold" Decoder.word,
    .required "confirmed" Decoder.bool, .optional "value" Decoder.word]).map
    fun (threshold, confirmed, observed, ()) => ⟨threshold, confirmed, observed⟩

end Confirmation

namespace Transaction

/-- A transaction as an object. -/
def encode (t : Transaction) : Json :=
  .ofMembers [("id", .text t.id), ("from", .text t.sender), ("to", .text t.recipient),
    ("value", .text t.value), ("confirmations", t.confirmation.encode)]

/-- Reads a transaction. -/
def decode : Decoder Transaction :=
  (record "Transaction" [.required "id" Decoder.text, .required "from" Decoder.text,
    .required "to" Decoder.text, .required "value" Decoder.text,
    .required "confirmations" Confirmation.decode]).map
    fun (id, sender, recipient, value, confirmation, ()) =>
      ⟨id, sender, recipient, value, confirmation⟩

end Transaction

end AssetOracle
