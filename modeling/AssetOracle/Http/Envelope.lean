import AssetOracle.Registry.Node
import AssetOracle.Text.Blank

/-!
# Bodies of requests and responses

The envelopes that responses come in, the body of an import request, and the query of a listing.
-/

namespace AssetOracle.Http

open Decoder (record)

/-- A successful body: the data under one name. -/
def dataBody (data : Json) : Json := .ofMembers [("data", data)]

/-- The data of a listing. -/
def listingData (nodes : List RegisteredNode) : Json :=
  .ofMembers [("nodes", .array (nodes.map (·.encode)))]

/-- The data of a transaction look-up. -/
def transactionData (t : Transaction) : Json := .ofMembers [("transaction", t.encode)]

/-- The envelope around some data. -/
def decodeData {α : Type} (decode : Decoder α) : Decoder α :=
  (record "Data" [.required "data" decode]).map fun (data, ()) => data

/-- The envelope of a listing. -/
def decodeListing : Decoder (List RegisteredNode) :=
  decodeData ((record "NodeList" [.required "nodes" (Decoder.list RegisteredNode.decode)]).map
    fun (nodes, ()) => nodes)

/-- The envelope of a transaction. -/
def decodeTransaction : Decoder Transaction :=
  decodeData ((record "TransactionBody" [.required "transaction" Transaction.decode]).map
    fun (transaction, ()) => transaction)

/-- A body that reports a failure. -/
structure FailureBody where
  data : Option Json
  error : String
  code : UInt16

namespace FailureBody

/-- The body that reports a failure; data that is absent is null. -/
def encode (b : FailureBody) : Json :=
  .ofMembers [("data", b.data.getD .null), ("error", .text b.error), ("code", .nat b.code.toNat)]

/-- Reads the body that reports a failure. -/
def decode : Decoder FailureBody :=
  (record "GenericResponse" [.nullable "data" Decoder.any, .required "error" Decoder.text,
    .required "code" Decoder.short]).map
    fun (data, error, code, ()) => ⟨data, error, code⟩

end FailureBody

/-- The body of an import request. -/
structure ImportRequest where
  address : String
deriving DecidableEq

/-- Reads the body of an import request. -/
def ImportRequest.decode : Decoder ImportRequest :=
  (record "ImportRequest" [.required "addr" Decoder.text]).map fun (address, ()) => ⟨address⟩

/-- The query of a listing. -/
structure NodesQuery where
  noinfo : Option String
deriving DecidableEq

/-- Reads the query of a listing, whose flag may be left out. -/
def NodesQuery.decode : Decoder NodesQuery :=
  (record "NodesQuery" [.optional "noinfo" Decoder.text]).map fun (noinfo, ()) => ⟨noinfo⟩

/-- Whether the chain states are wanted: unless the flag says `true`, in any case and with any
    white space around it. -/
def NodesQuery.enrich (q : NodesQuery) : Bool :=
  match q.noinfo with
  | some value => !Text.equalsIgnoringCase (Text.trim value) "true"
  | none => true

end AssetOracle.Http
