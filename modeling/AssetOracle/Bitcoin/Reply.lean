import AssetOracle.Document.Decoder
import AssetOracle.Decimal.Fixed

/-!
# Replies of output-based nodes

The parts of a node's replies that are read, for nodes whose transactions spend outputs of
earlier ones. An output is paid to its address, which older nodes give as a list.
-/

namespace AssetOracle.Bitcoin

open Decimal (Binary64)
open Decoder (record)

/-- The state of the node's chain. -/
structure BlockchainInfo where
  chain : String
  blocks : UInt64
  bestBlockHash : String
deriving DecidableEq

/-- An output that is not spent yet. -/
structure Unspent where
  amount : Binary64
deriving DecidableEq

/-- Whom an output is paid to. -/
structure Script where
  address : Option String := none
  addresses : Option (List String) := none
deriving DecidableEq

/-- An output of a transaction. -/
structure Output where
  value : Binary64
  script : Script
deriving DecidableEq

/-- An input of a transaction: the output that it spends. An input that makes new coins spends
    none. -/
structure Input where
  transaction : Option String := none
  output : Option Nat := none
deriving DecidableEq

/-- A transaction with its inputs and outputs. -/
structure RawTransaction where
  id : String
  confirmations : Option UInt64
  inputs : List Input
  outputs : List Output
deriving DecidableEq

/-- The address that an output is paid to: its own, or else the first of its list. -/
def Script.payee (s : Script) : Option String :=
  s.address.or (s.addresses.bind List.head?)

/-- Reads the state of a chain; all three of its members have to be there. -/
def BlockchainInfo.decode : Decoder BlockchainInfo :=
  (record "BlockchainInfo" [.required "chain" Decoder.text, .required "blocks" Decoder.word,
    .required "bestblockhash" Decoder.text]).map
    fun (chain, blocks, bestBlockHash, ()) => ⟨chain, blocks, bestBlockHash⟩

/-- Reads an unspent output, of which only the amount counts. -/
def Unspent.decode : Decoder Unspent :=
  (record "Unspent" [.required "amount" Decoder.double]).map fun (amount, ()) => ⟨amount⟩

/-- Reads whom an output is paid to; a script may name nobody. -/
def Script.decode : Decoder Script :=
  (record "ScriptPubKey" [.optional "address" Decoder.text,
    .optional "addresses" (Decoder.list Decoder.text)]).map
    fun (address, addresses, ()) => ⟨address, addresses⟩

/-- Reads an output of a transaction. -/
def Output.decode : Decoder Output :=
  (record "TxOutput" [.required "value" Decoder.double,
    .required "scriptPubKey" Script.decode]).map
    fun (value, script, ()) => ⟨value, script⟩

/-- Reads an input, which may spend nothing. -/
def Input.decode : Decoder Input :=
  (record "TxInput" [.optional "txid" Decoder.text, .optional "vout" Decoder.index]).map
    fun (transaction, output, ()) => ⟨transaction, output⟩

/-- Reads a transaction; it may come without confirmations, inputs or outputs. -/
def RawTransaction.decode : Decoder RawTransaction :=
  (record "RawTransaction" [.required "txid" Decoder.text,
    .optional "confirmations" Decoder.word,
    .withDefault "vin" (Decoder.list Input.decode) [],
    .withDefault "vout" (Decoder.list Output.decode) []]).map
    fun (id, confirmations, inputs, outputs, ()) => ⟨id, confirmations, inputs, outputs⟩

/-- An amount with six decimal places. -/
def amountText (amount : Binary64) : String := String.ofList (amount.fixed 6)

end AssetOracle.Bitcoin
