import AssetOracle.Http.Envelope
import AssetOracle.Http.MediaType
import AssetOracle.Json.Decode
import AssetOracle.Text.Form

/-!
# Requests

A request as it arrives, and what is read from it: the id it asks to be known by, the query of a
listing, and the address of an import.
-/

namespace AssetOracle.Http

/-- What a request wants done. -/
inductive Method where
  | get
  | head
  | post
  | other (name : String)
deriving DecidableEq, Repr

/-- The method of a name. -/
def Method.ofName (name : String) : Method :=
  match name with
  | "GET" => .get
  | "HEAD" => .head
  | "POST" => .post
  | name => .other name

/-- A request. The path is kept as it was written. -/
structure Request where
  method : Method
  path : String
  query : Option String := none
  headers : List (String × String) := []
  body : List UInt8 := []

namespace Request

/-- The path and the query of a request's target. -/
def splitTarget (target : String) : String × Option String :=
  let cs := target.toList.takeWhile (· ≠ '#')
  let path := String.ofList (cs.takeWhile (· ≠ '?'))
  match cs.dropWhile (· ≠ '?') with
  | [] => (path, none)
  | _ :: query => (path, some (String.ofList query))

/-- The value of a header, whose name is compared without case. -/
def header? (r : Request) (name : String) : Option String :=
  (r.headers.find? fun (n, _) => Text.equalsIgnoringCase n name).map (·.2)

/-- The id that the request asks to be known by. -/
def id? (r : Request) : Option String := r.header? "x-request-id"

/-- Whether the request says that its body is JSON. -/
def hasJson (r : Request) : Bool :=
  match r.header? "content-type" with
  | some value => ((MediaType.parse? value).map MediaType.isJson).getD false
  | none => false

/-- How many bytes a body may have. -/
def maxBody : Nat := 2 * 1024 * 1024

/-- The words for a body that is not what was asked for. -/
def bodyMessage : DecodeError → String
  | .mismatch path reason =>
    "Failed to deserialize the JSON body into the target type: " ++
      (if path.isEmpty then "" else pathMessage path ++ ": ") ++ reason.message .jsonText
  | error => "Failed to parse the request body as JSON: " ++ error.message .jsonText

/-- Reads a JSON body; the header counts before the length, and the length before the content. -/
def decodeBody {α : Type} (r : Request) (decoder : Decoder α) : Except String α :=
  if r.hasJson = false then .error "Expected request with `Content-Type: application/json`"
  else if maxBody < r.body.length then
    .error "Failed to buffer the request body: length limit exceeded"
  else ((Json.Source.ofBytes r.body).decode decoder).mapError bodyMessage

/-- The address to import, without the white space around it. -/
def importAddress (r : Request) : Except String String := do
  let body ← r.decodeBody ImportRequest.decode
  let address := Text.trim body.address
  if address.isEmpty then throw "addr must not be empty" else return address

/-- The query of a listing; its flag may be given once. -/
def nodesQuery (r : Request) : Except String NodesQuery :=
  match (Text.Form.pairs (r.query.getD "")).filter (·.1 = "noinfo") with
  | [] => .ok ⟨none⟩
  | [(_, value)] => .ok ⟨some value⟩
  | _ =>
    .error ("Failed to deserialize query string: " ++
      (Mismatch.duplicateField "noinfo").message .jsonText)

end Request

end AssetOracle.Http
