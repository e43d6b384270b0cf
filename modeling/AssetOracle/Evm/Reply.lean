import AssetOracle.Evm.Bytes
import AssetOracle.Json.Decode
import AssetOracle.Rpc.Failure
import AssetOracle.Rpc.Talk

/-!
# Replies of account-based nodes

The parts of a node's replies that are read, for nodes that keep accounts. Numbers are quantities
in hexadecimal, byte strings are hexadecimal digits. A reply with a failing status is a failure
whatever its body says; any other body carries either a result or an error.

Only what is read of a result is looked at here. A block has further members, such as the hash of
its parent and its roots, and so has a transaction, such as its nonce, its gas and its signature. A
library that reads whole records refuses one that lacks some of these, where the decoders below
accept it. The other way round it may take a byte string as an array of numbers too, one for each
byte; nodes do not write byte strings like that, and the decoders refuse it.
-/

namespace AssetOracle.Evm

open Rpc (Answer)

/-- The head of a chain, as a block. -/
structure Block where
  number : UInt64
  hash : Hash
deriving DecidableEq

/-- A transaction of an account; without a recipient it makes a contract. -/
structure AccountTransaction where
  signer : Address
  recipient : Option Address
  value : Nat
  input : List UInt8
  block : Option UInt64
deriving DecidableEq

/-- The number that the text of a quantity stands for: hexadecimal after `0x`, else decimal. -/
def quantity? (s : String) : Option Nat :=
  match s.toList with
  | ['0', 'x'] => some 0
  | '0' :: 'x' :: digits => Text.Hex.value? digits
  | digits =>
    if digits.isEmpty then none
    else digits.foldlM (fun acc c => if c.isDigit then some (10 * acc + (c.toNat - 48)) else none) 0

/-- Fails with a text that has the wrong form. -/
def badText {α : Type} (s wanted : String) : Except DecodeError α :=
  .error (.mismatch [] (.invalidValue (.text s) wanted))

/-- A quantity below `2 ^ bits`. -/
def decodeQuantity (bits : Nat) : Decoder Nat
  | _, .number (.integer n) =>
    if 0 ≤ n ∧ n < Nat.pow 2 bits then .ok n.toNat
    else .error (.mismatch [] (.invalidValue (.integer n) "a quantity"))
  | _, .text s =>
    match quantity? s with
    | some n => if n < Nat.pow 2 bits then .ok n else badText s "a quantity"
    | none => badText s "a quantity"
  | _, d => Decoder.unexpected "a quantity" d

/-- A quantity of sixty-four bits. -/
def decodeWord : Decoder UInt64 := (decodeQuantity 64).map UInt64.ofNat

/-- A byte string of a fixed length, as hexadecimal digits and not as an array of numbers. -/
def decodeFixed (size : Nat) : Decoder (FixedBytes size)
  | _, .text s =>
    match FixedBytes.parse size s with
    | .ok x => .ok x
    | .error e => badText s e.message
  | _, d => Decoder.unexpected "hexadecimal digits" d

/-- A byte string of any length, as hexadecimal digits and not as an array of numbers. -/
def decodeBytes : Decoder (List UInt8)
  | _, .text s =>
    match readPairs 0 (dropMark (Text.Utf8.encode s)) with
    | .ok bytes => .ok bytes
    | .error e => badText s e.message
  | _, d => Decoder.unexpected "hexadecimal digits" d

/-- Decodes the members of an object; nothing else will do. -/
def decodeObject (fields : List Field) : Decoder (Row fields)
  | dialect, .object ms cut => Decoder.recordOfMembers fields dialect ms cut
  | _, d => Decoder.unexpected "an object" d

/-- Reads a block, of which only the number and the hash count; it need not have other members. -/
def Block.decode : Decoder Block :=
  (decodeObject [.required "number" decodeWord, .required "hash" (decodeFixed 32)]).map
    fun (number, hash, ()) => ⟨number, hash⟩

/-- Reads a transaction; it has no recipient if it makes a contract, and no block while it waits
    for one. It need not have members that are not read, such as a signature. -/
def AccountTransaction.decode : Decoder AccountTransaction :=
  (decodeObject [.required "from" (decodeFixed 20), .optional "to" (decodeFixed 20),
    .required "value" (decodeQuantity 256), .required "input" decodeBytes,
    .optional "blockNumber" decodeWord]).map
    fun (signer, recipient, value, input, block, ()) => ⟨signer, recipient, value, input, block⟩

/-- The error object of a node. -/
structure Refusal where
  code : Int
  message : String
  data : Option Json

/-- Reads the error object of a reply. -/
def Refusal.decode : Decoder Refusal :=
  (decodeObject [.required "code" Decoder.signed, .required "message" Decoder.text,
    .optional "data" Decoder.any]).map
    fun (code, message, data, ()) => ⟨code, message, data⟩

/-- A member that may be absent and of which a null counts as given. -/
def given {α : Type} (name : String) (decode : Decoder α) : Field :=
  ⟨name, Option α, decode.map some, some none, some none⟩

/-- What a body carries: a result or an error, but not both. -/
def decodeBody : Decoder (Option Json × Option Refusal) :=
  (decodeObject [given "result" Decoder.any, given "error" Refusal.decode]).map
    fun (result, error, ()) => (result, error)

/-- The result that a successful reply carries. -/
def bodyOutcome (body : List UInt8) : Except Failure Json :=
  match (Json.Source.ofBytes body).decode decodeBody with
  | .ok (some result, none) => .ok result
  | .ok (none, some refusal) =>
    .error (.refused refusal.code refusal.message (refusal.data.map Json.compact))
  | .ok (some _, some _) => .error (.unusable "result and error are mutually exclusive")
  | .ok (none, none) => .error (.unusable "missing field `result` or `error`")
  | .error e => .error (.unusable (e.message .jsonText))

/-- The value that a reply carries. -/
def replyValue {α : Type} (decoder : Decoder α) (r : Rpc.Reply) : Except Failure α :=
  if r.isSuccess then do
    let result ← bodyOutcome r.body
    (result.decode decoder).mapError fun e => .unusable (e.message .jsonValue)
  else .error (.status r.status (Text.Utf8.decodeLossy r.body))

end AssetOracle.Evm
