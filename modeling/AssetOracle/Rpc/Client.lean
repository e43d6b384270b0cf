import AssetOracle.Json.Decode
import AssetOracle.Rpc.Failure
import AssetOracle.Rpc.Talk

/-!
# Plain JSON-RPC

A call and its reply. The body of a reply is an envelope with a result or an error; the envelope
is read first, and the result, null if there is none, is decoded in a second step. The status of
the reply counts only if the body is no envelope.
-/

namespace AssetOracle.Rpc

open Decoder (record)

/-- The error object of a node. -/
structure Refusal where
  code : Int
  message : String
deriving DecidableEq

/-- What a reply carries. -/
structure Envelope where
  result : Option Json
  error : Option Refusal

/-- Reads the error object of a reply. -/
def Refusal.decode : Decoder Refusal :=
  (record "ErrorObject" [.required "code" Decoder.signed, .required "message" Decoder.text]).map
    fun (code, message, ()) => ⟨code, message⟩

/-- Reads an envelope, in which result and error may be absent or null. -/
def Envelope.decode : Decoder Envelope :=
  (record "Envelope" [.optional "result" Decoder.any, .optional "error" Refusal.decode]).map
    fun (result, error, ()) => ⟨result, error⟩

/-- The result that an envelope carries. -/
def Envelope.outcome (e : Envelope) : Except Failure Json :=
  match e.error with
  | some refusal => .error (.refused refusal.code refusal.message)
  | none => .ok (e.result.getD .null)

/-- The result in a reply. -/
def Reply.outcome (r : Reply) : Except Failure Json :=
  match (Json.Source.ofBytes r.body).decode Envelope.decode with
  | .ok envelope => envelope.outcome
  | .error error =>
    if r.isSuccess then .error (.undecodable .jsonText error)
    else .error (.status r.status (Text.Utf8.decodeLossy r.body))

/-- The value that an answer carries. -/
def Answer.decode {α : Type} (decoder : Decoder α) (endpoint : Url) : Answer → Except Failure α
  | .reply r => do
    let result ← r.outcome
    (result.decode decoder).mapError (.undecodable .jsonValue)
  | .broken => .error (.transport (requestUrl endpoint))
  | .late => .error (.transport (requestUrl endpoint))

/-- A call whose result is decoded. -/
def call {α : Type} (channel : Channel) (method : String) (params : List Json)
    (decoder : Decoder α) : Talk (Except Failure α) := do
  let answer ← Talk.call channel method params
  return answer.decode decoder channel.endpoint

/-- A channel of its own number to a URL, unless the text is no URL. -/
def Channel.open? (number : Nat) (endpoint : String) (credentials : Option Credentials)
    (limit : Option Duration) : Except String Channel :=
  match Url.parse? endpoint with
  | some url => .ok { number, protocol := .plain, endpoint := url, credentials, limit }
  | none => .error ("invalid endpoint '" ++ endpoint ++ "': not an absolute URL")

end AssetOracle.Rpc
