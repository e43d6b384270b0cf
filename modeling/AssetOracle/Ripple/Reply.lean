import AssetOracle.Decimal.Fixed
import AssetOracle.Document.Decoder

/-!
# Replies of ledger nodes

The parts of a ledger node's replies that are read. Amounts of the native asset are counted in
drops, of which a million make one unit; amounts issued by an account are passed on as given.
-/

namespace AssetOracle.Ripple

open Decoder (record)

/-- A ledger by its hash and number. -/
structure Ledger where
  hash : String
  number : UInt64
deriving DecidableEq

/-- The ledgers that a node reports. -/
structure ServerInfo where
  validated : Option Ledger
  closed : Option Ledger
deriving DecidableEq

/-- An amount: drops of the native asset, or an amount of a currency that an account issues. -/
inductive Amount where
  | drops (text : String)
  | issued (currency : String) (issuer : Option String) (value : String)
deriving DecidableEq

/-- A payment, as far as it is one. -/
structure Payment where
  hash : String
  account : String
  destination : Option String
  amount : Option Amount
  validated : Bool
deriving DecidableEq

/-- Reads a ledger by its hash and number. -/
def Ledger.decode : Decoder Ledger :=
  (record "LedgerRef" [.required "hash" Decoder.text, .required "seq" Decoder.word]).map
    fun (hash, number, ()) => ⟨hash, number⟩

/-- Reads the ledgers that a node reports, either of which may be absent. -/
def ServerInfo.decode : Decoder ServerInfo :=
  (record "ServerInfo" [.optional "validated_ledger" Ledger.decode,
    .optional "closed_ledger" Ledger.decode]).map
    fun (validated, closed, ()) => ⟨validated, closed⟩

/-- The reply that holds a node's ledgers. -/
def decodeServerInfo : Decoder ServerInfo :=
  (record "ServerInfoResult" [.required "info" ServerInfo.decode]).map fun (info, ()) => info

/-- The reply that holds the balance of an account, in drops. -/
def decodeAccountBalance : Decoder String :=
  let data := (record "AccountData" [.required "Balance" Decoder.text]).map
    fun (balance, ()) => balance
  (record "AccountInfoResult" [.required "account_data" data]).map fun (balance, ()) => balance

/-- The fields of an issued amount. -/
def issuedFields : List Field :=
  [.required "currency" Decoder.text, .optional "issuer" Decoder.text,
    .required "value" Decoder.text]

/-- A text of drops or an object of an issued amount. The whole document is read before the two
    are tried, and why neither fits is not said. -/
def Amount.decode : Decoder Amount := fun dialect d =>
  let misfit : DecodeError := .mismatch [] (.noVariant "Amount")
  match d.keepFault, d with
  | some fault, _ => .error (.unreadable fault)
  | none, .text s => .ok (.drops s)
  | none, .object members cut =>
    match Decoder.recordOfMembers issuedFields dialect members cut with
    | .ok (currency, issuer, value, ()) => .ok (.issued currency issuer value)
    | .error _ => .error misfit
  | none, _ => .error misfit

/-- Reads a transaction as far as it is a payment; one that is not said to be validated is not. -/
def Payment.decode : Decoder Payment :=
  (record "TxResult" [.required "hash" Decoder.text, .required "Account" Decoder.text,
    .optional "Destination" Decoder.text, .optional "Amount" Amount.decode,
    .withDefault "validated" Decoder.bool false]).map
    fun (hash, account, destination, amount, validated, ()) =>
      ⟨hash, account, destination, amount, validated⟩

/-- The number that a text of digits stands for, which may have a plus sign, if it fits
    sixty-four bits. -/
def drops? (s : String) : Option UInt64 := do
  let digits := match s.toList with
    | '+' :: rest => rest
    | cs => cs
  let n ← Decimal.ofDigits? digits
  if n < UInt64.size then some (UInt64.ofNat n) else none

/-- The number of decimal places of the native asset. -/
def dropPlaces : Nat := 6

/-- A number of drops as an amount of the native asset, without superfluous zeros. -/
def dropsText (drops : UInt64) : String := String.ofList (Decimal.scaled dropPlaces drops.toNat)

end AssetOracle.Ripple
