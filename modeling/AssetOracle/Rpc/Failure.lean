import AssetOracle.Document.Error
import AssetOracle.Url.Basic

/-!
# Failures of remote calls

The ways in which a call to a node can fail, one type for each of the two protocols, and their
wording.
-/

namespace AssetOracle

/-- Whether a scheme is one of those by which requests are made. -/
def Url.IsWeb (url : Url) : Prop := url.scheme = "http" ∨ url.scheme = "https"

instance (url : Url) : Decidable url.IsWeb := inferInstanceAs (Decidable (_ ∨ _))

/-- How many bytes the URL of a request may have. -/
def Url.maxLength : Nat := 65534

/-- Whether a URL is not too long for a request. -/
def Url.IsShort (url : Url) : Prop := url.render.utf8ByteSize ≤ maxLength

instance (url : Url) : Decidable url.IsShort := inferInstanceAs (Decidable (_ ≤ _))

/-- The words for a request that found no answer. To a URL of another scheme than those of the web,
    or to one that is too long, no request is made at all. -/
def unansweredMessage (url : Url) : String :=
  let what := if url.IsWeb ∧ url.IsShort then "error sending request" else "builder error"
  what ++ " for url (" ++ url.render ++ ")"

/-- How a plain JSON-RPC call fails: the exchange breaks off, the node refuses with an error
    object, the status is a failure and the body no reply, or the reply does not decode. -/
inductive Rpc.Failure where
  | transport (url : Url)
  | refused (code : Int) (message : String)
  | status (status : Nat) (body : String)
  | undecodable (stage : Dialect) (error : DecodeError)

/-- The words for a failed call. -/
def Rpc.Failure.message : Rpc.Failure → String
  | .transport url => "transport error: " ++ unansweredMessage url
  | .refused code message => "rpc error " ++ toString code ++ ": " ++ message
  | .status number body => "http status " ++ toString number ++ ": " ++ body
  | .undecodable stage error => "decode error: " ++ error.message stage

/-- How a call to an account-based node fails: the exchange breaks off, the node refuses with an
    error object, the result has the wrong shape, or the status is a failure. -/
inductive Evm.Failure where
  | transport (url : Url)
  | refused (code : Int) (message : String) (data : Option String)
  | unusable (detail : String)
  | status (status : Nat) (body : String)

/-- The words for a failed call. -/
def Evm.Failure.message : Evm.Failure → String
  | .transport url => unansweredMessage url
  | .refused code message data =>
    "server returned an error response: error code " ++ toString code ++ ": " ++ message ++
      match data with
      | some data => ", data: " ++ data
      | none => ""
  | .unusable detail => "deserialization error: " ++ detail
  | .status number body =>
    "HTTP error " ++ toString number ++
      if body.isEmpty then " with empty body" else " with body: " ++ body

end AssetOracle
