import AssetOracle.Http.Envelope
import AssetOracle.Node.Error

/-!
# Responses

Responses, and how errors become responses. An asset that is not registered is reported without
an envelope; every other failure carries a code that names the kind of request it belongs to, and
invalid input has a code of its own.
-/

namespace AssetOracle.Http

/-- What kind of request failed. -/
inductive ErrorCode where
  | invalidRequest
  | cannotImport
  | balance
  | transaction
  | info
deriving DecidableEq, Repr

/-- The number of a code. -/
def ErrorCode.number : ErrorCode → UInt16
  | .invalidRequest => 101
  | .cannotImport => 201
  | .balance => 202
  | .transaction => 301
  | .info => 401

/-- A failure as the client is told of it. -/
inductive ApiError where
  | assetNotFound (asset : String)
  | failed (status : Nat) (code : ErrorCode) (message : String)
deriving DecidableEq, Repr

namespace ApiError

/-- A request that is at fault itself. -/
def invalid (message : String) : ApiError := .failed 400 .invalidRequest message

/-- A node's error, in a request of the given kind. -/
def ofNodeError (error : NodeError) (code : ErrorCode) : ApiError :=
  match error with
  | .notFound asset => .assetNotFound asset
  | .invalidInput _ => .invalid error.message
  | .timeout .. => .failed 504 code error.message
  | .failed .. => .failed 400 code error.message
  | .unsupported .. => .failed 400 code error.message

/-- The status of the response. -/
def status : ApiError → Nat
  | .assetNotFound _ => 404
  | .failed status _ _ => status

/-- The body of the response. -/
def body : ApiError → Json
  | .assetNotFound asset => .ofMembers [("error", .text ("asset: " ++ asset ++ " was not found"))]
  | .failed _ code message => FailureBody.encode ⟨none, message, code.number⟩

end ApiError

/-- What a response carries. -/
inductive Content where
  | nothing
  | text (text : String)
  | json (value : Json)

/-- The text that is sent. The members of an object are printed in the order of their names; a
    service may as well print those of a record in the order of its fields, since their order means
    nothing to whoever reads them by name. -/
def Content.render : Content → String
  | .nothing => ""
  | .text s => s
  | .json value => value.compact

/-- A response: its status, the headers that say what it carries and which methods are allowed,
    and its content. -/
structure Response where
  status : Nat
  contentType : Option String := none
  allow : Option String := none
  content : Content := .nothing

namespace Response

/-- A response that says nothing but its status. -/
def bare (status : Nat) : Response := { status }

/-- A response that carries JSON. -/
def json (status : Nat) (value : Json) : Response where
  status := status
  contentType := some "application/json"
  content := .json value

/-- A response that carries a text for people. -/
def text (status : Nat) (s : String) : Response where
  status := status
  contentType := some "text/plain; charset=utf-8"
  content := .text s

/-- A response that succeeds with some data. -/
def ofData (data : Json) : Response := json 200 (dataBody data)

/-- A failure as a response. -/
def ofError (e : ApiError) : Response := json e.status e.body

/-- The outcome of an operation on a node as a response. -/
def ofResult {α : Type} (code : ErrorCode) (encode : α → Json) : NodeResult α → Response
  | .ok value => ofData (encode value)
  | .error e => ofError (.ofNodeError e code)

/-- The response without its content. -/
def withoutContent (r : Response) : Response := { r with content := .nothing }

end Response

end AssetOracle.Http
