import AssetOracle.Proofs.Http.Envelope
import AssetOracle.Proofs.Http.Status
import AssetOracle.Proofs.Http.Target

/-!
# Look-ups

A look-up asks the client of one asset for the state of its chain, a balance or a transaction. Its
three kinds differ in what they ask, in the decoder for the answer and in the code of a failure
(`Lookup`). Whatever the client answers in time, it is asked once, and the response says the same
as its answer (`Server.serve_of_looksUp`).
-/

namespace AssetOracle.Http

open Json (Portable)

variable {α : Type}

/-! ## Reading responses -/

/-- What the body of a response is read as. -/
def Response.read (r : Response) (decoder : Decoder α) : Except DecodeError α :=
  (Json.Source.ofText r.content.render).decode decoder

theorem Response.read_json {status : Nat} {value : Json} (h : Portable Json.maxDepth value)
    (decoder : Decoder α) :
    (Response.json status value).read decoder = decoder .jsonText value.toDocument :=
  Json.decode_ofText_compact h decoder

/-- Whether a response reports an asset that was not found, and nothing else. -/
def Response.ReportsMissing (r : Response) (asset : String) : Prop :=
  r.status = 404 ∧
    r.read Decoder.any = .ok (.object [("error", .text ("asset: " ++ asset ++ " was not found"))])

/-- Whether a response reports a failure, with a null in the place of the data. -/
def Response.ReportsFailure (r : Response) (status : Nat) (code : UInt16) (message : String) :
    Prop :=
  r.status = status ∧ r.read FailureBody.decode = .ok ⟨none, message, code⟩ ∧
    ∃ body, r.read Decoder.any = .ok body ∧ body.get? "data" = some .null

theorem Response.reportsMissing_ofError (asset : String) :
    (Response.ofError (.assetNotFound asset)).ReportsMissing asset := by
  have hportable : Portable (126 + 1) (ApiError.assetNotFound asset).body := by
    apply Portable.ofMembers
    simp [Portable.text]
  refine ⟨rfl, ?_⟩
  rw [Response.ofError, Response.read_json hportable, Json.any_toDocument hportable]
  rfl

theorem Response.reportsFailure_ofError {status : Nat} {code : ErrorCode} {message : String} :
    (Response.ofError (.failed status code message)).ReportsFailure status code.number message := by
  have hportable : Portable (126 + 1) (ApiError.failed status code message).body :=
    FailureBody.portable_encode message code.number
  refine ⟨rfl, ?_, (ApiError.failed status code message).body, ?_, ?_⟩
  · rw [Response.ofError, Response.read_json hportable]
    exact FailureBody.decode_encode message code.number
  · rw [Response.ofError, Response.read_json hportable, Json.any_toDocument hportable]
  · rfl

/-! ## Requests -/

/-- A kind of request that asks a client what it knows: the asset it names, what the client is
    asked, the decoder of the answer, and the code of a failure. -/
structure Lookup where
  Value : Type
  asset : String
  call : Client → Client.Call
  ask : Client → Job (NodeResult Value)
  decode : Decoder Value
  code : UInt16

namespace Lookup

/-- The look-up of the state of a chain. -/
def info (asset : String) : Lookup where
  Value := ChainState
  asset := asset
  call client := .info client.asset
  ask client := client.info
  decode := decodeData ChainState.decode
  code := 401

/-- The look-up of a balance. -/
def balance (asset address : String) : Lookup where
  Value := Balance
  asset := asset
  call client := .balance client.asset address
  ask client := client.balance address
  decode := decodeData Balance.decode
  code := 202

/-- The look-up of a transaction. -/
def transaction (asset id : String) : Lookup where
  Value := Transaction
  asset := asset
  call client := .transaction client.asset id
  ask client := client.transaction id
  decode := decodeTransaction
  code := 301

/-- Whether a response tells what a client answered. -/
def Reports (l : Lookup) (r : Response) : NodeResult l.Value → Prop
  | .ok value => r.status = 200 ∧ r.read l.decode = .ok value
  | .error (.notFound asset) => r.ReportsMissing asset
  | .error (.invalidInput text) =>
    r.ReportsFailure 400 101 (NodeError.invalidInput text).message
  | .error (.timeout operation after) =>
    r.ReportsFailure 504 l.code (NodeError.timeout operation after).message
  | .error (.failed asset operation cause) =>
    r.ReportsFailure 400 l.code (NodeError.failed asset operation cause).message
  | .error (.unsupported asset capability) =>
    r.ReportsFailure 400 l.code (NodeError.unsupported asset capability).message

theorem reports_ofResult {l : Lookup} {code : ErrorCode} {encode : l.Value → Json}
    (hcode : code.number = l.code) (hdecode : l.decode.Inverts fun v => dataBody (encode v))
    (hportable : ∀ v, Portable Json.maxDepth (dataBody (encode v))) (result : NodeResult l.Value) :
    l.Reports (Response.ofResult code encode result) result := by
  have hfailed : ∀ status message, (Response.ofError (.failed status code message)).ReportsFailure
      status l.code message := by
    intro status message
    rw [← hcode]
    exact Response.reportsFailure_ofError
  cases result with
  | ok v => exact ⟨rfl, (Response.read_json (hportable v) l.decode).trans (hdecode _ v)⟩
  | error e =>
    cases e with
    | notFound asset => exact Response.reportsMissing_ofError asset
    | invalidInput text => exact Response.reportsFailure_ofError
    | timeout operation after => exact hfailed _ _
    | failed asset operation cause => exact hfailed _ _
    | unsupported asset capability => exact hfailed _ _

theorem status_eq_ok_iff {l : Lookup} {r : Response} {result : NodeResult l.Value}
    (h : l.Reports r result) : r.status = 200 ↔ ∃ value, result = .ok value := by
  cases result with
  | ok value => exact ⟨fun _ => ⟨value, rfl⟩, fun _ => h.1⟩
  | error e =>
    have hne : r.status ≠ 200 := by
      cases e <;> rw [h.1] <;> decide
    exact ⟨fun h200 => absurd h200 hne, fun ⟨value, hvalue⟩ => nomatch hvalue⟩

end Lookup

/-- Whether a request is a look-up, whose texts are the segments of its path without escapes. -/
inductive Request.LooksUp (r : Request) : Lookup → Prop where
  | info {segment asset : String} (hasset : Target.StandsFor segment asset)
    (hpath : r.path = "/nodes/" ++ segment ++ "/info") : LooksUp r (.info asset)
  | balance {segment asset segment' address : String} (hasset : Target.StandsFor segment asset)
    (haddress : Target.StandsFor segment' address)
    (hpath : r.path = "/nodes/" ++ segment ++ "/addrs/" ++ segment' ++ "/balance") :
    LooksUp r (.balance asset address)
  | transaction {segment asset segment' id : String} (hasset : Target.StandsFor segment asset)
    (hid : Target.StandsFor segment' id) (hne : segment' ≠ "")
    (hpath : r.path = "/nodes/" ++ segment ++ "/txs/" ++ segment') :
    LooksUp r (.transaction asset id)

namespace Target

variable {l : Lookup}

/-- The look-up that a target is. -/
def lookup? : Target → Option Lookup
  | .info asset => some (.info asset)
  | .balance asset address => some (.balance asset address)
  | .transaction asset id => some (.transaction asset id)
  | _ => none

/-- The path of a look-up names a target that takes requests to read, and is the look-up once the
    escapes in it are replaced. -/
theorem exists_of_looksUp {r : Request} (h : r.LooksUp l) :
    ∃ target decoded, ofPath? r.path = some target ∧ target.decode = .ok decoded ∧
      decoded.lookup? = some l ∧
      ∀ method, method = .get ∨ method = .head → target.accepts method = true := by
  cases h with
  | @info segment asset hasset hpath =>
    refine ⟨.info segment, .info asset, hpath ▸ ofPath?_info hasset.1, ?_, rfl, ?_⟩
    · rw [decode, parameter_of_standsFor hasset]
      rfl
    · rintro method (rfl | rfl) <;> rfl
  | @balance segment asset segment' address hasset haddress hpath =>
    refine ⟨.balance segment segment', .balance asset address,
      hpath ▸ ofPath?_balance hasset.1 haddress.1, ?_, rfl, ?_⟩
    · rw [decode, parameter_of_standsFor hasset, parameter_of_standsFor haddress]
      rfl
    · rintro method (rfl | rfl) <;> rfl
  | @transaction segment asset segment' id hasset hid hne hpath =>
    refine ⟨.transaction segment segment', .transaction asset id,
      hpath ▸ ofPath?_transaction hasset.1 hid.1 hne, ?_, rfl, ?_⟩
    · rw [decode, parameter_of_standsFor hasset, parameter_of_standsFor hid]
      rfl
    · rintro method (rfl | rfl) <;> rfl

end Target

/-! ## Responses to look-ups -/

variable {request : Request} {l : Lookup}

/-- The work for a look-up asks the client once and reports its answer. -/
theorem Work.exists_respond (registry : Registry Client) (request : Request) {decoded : Target}
    (h : decoded.lookup? = some l) :
    ∃ respond : NodeResult l.Value → Response, (∀ result, l.Reports (respond result) result) ∧
      ofTarget registry request decoded = withClient registry l.asset fun client =>
        { job := (l.ask client).map respond, calls := [l.call client] } := by
  cases decoded with
  | ping => cases h
  | nodes => cases h
  | importing asset => cases h
  | info asset =>
    obtain rfl := Option.some.inj h
    refine ⟨.ofResult .info ChainState.encode, Lookup.reports_ofResult rfl ?_ ?_, rfl⟩
    · exact inverts_decodeData ChainState.inverts_decode
    · exact fun v => portable_dataBody v.portable_encode
  | balance asset address =>
    obtain rfl := Option.some.inj h
    refine ⟨.ofResult .balance Balance.encode, Lookup.reports_ofResult rfl ?_ ?_, rfl⟩
    · exact inverts_decodeData Balance.inverts_decode
    · exact fun v => portable_dataBody v.portable_encode
  | transaction asset id =>
    obtain rfl := Option.some.inj h
    refine ⟨.ofResult .transaction transactionData, Lookup.reports_ofResult rfl ?_ ?_, rfl⟩
    · exact inverts_decodeTransaction
    · exact fun v => portable_dataBody (portable_transactionData v)

namespace Server

theorem exists_work_of_looksUp (s : Server) (h : request.LooksUp l)
    (hmethod : request.method = .get ∨ request.method = .head) :
    ∃ respond : NodeResult l.Value → Response, (∀ result, l.Reports (respond result) result) ∧
      s.work request = .withClient s.registry l.asset fun client =>
        { job := (l.ask client).map respond, calls := [l.call client] } := by
  obtain ⟨target, decoded, hpath, hdecode, hlookup, haccepts⟩ := Target.exists_of_looksUp h
  obtain ⟨respond, hreports, hwork⟩ := Work.exists_respond s.registry request hlookup
  refine ⟨respond, hreports, ?_⟩
  simp only [work, hpath, Work.ofRequest, haccepts _ hmethod, hdecode, hwork]
  rfl

/-- A look-up of an asset that is not registered asks no client and is told that asset, as it was
    asked for, is missing. A look-up of a registered asset asks its client once, with the texts of
    the path without their escapes; and whatever the client answers within the limit, the response
    reports that answer: it has status 200 if and only if the answer is a value, which is then what
    the body is read as. A request for the head alone is answered without the body. -/
theorem serve_of_looksUp (s : Server) (fresh : String) (h : request.LooksUp l)
    (hmethod : request.method = .get ∨ request.method = .head) :
    (s.registry.find? l.asset = none → s.limit ≠ .zero →
      (s.serve fresh request).calls = [] ∧
      ∃ response, (s.serve fresh request).response = some (trim request response) ∧
        response.ReportsMissing l.asset) ∧
    ∀ client, s.registry.find? l.asset = some client → ∀ result elapsed,
      (l.ask client).ending = .returned result →
      (l.ask client).endsWithin s.limit = some elapsed →
        (s.serve fresh request).calls = [l.call client] ∧
        ∃ response, (s.serve fresh request).response = some (trim request response) ∧
          l.Reports response result ∧ (response.status = 200 ↔ ∃ value, result = .ok value) := by
  obtain ⟨respond, hreports, hwork⟩ := exists_work_of_looksUp s h hmethod
  constructor
  · intro hfind hlimit
    simp only [hfind, Work.withClient] at hwork
    have hserve : (s.serve fresh request).calls = [] ∧ (s.serve fresh request).response = _ :=
      serve_of_refused hlimit hwork
    exact ⟨hserve.1, _, hserve.2, Response.reportsMissing_ofError l.asset⟩
  · intro client hfind result elapsed hending hends
    simp only [hfind, Work.withClient] at hwork
    have hgiven : (s.work request).job.ending = .returned (respond result) := by
      rw [hwork, Job.map, hending]
    have hlate : (s.work request).job.endsWithin s.limit = some elapsed := by
      rw [hwork]
      exact hends
    have hserve : (s.serve fresh request).calls = _ ∧ (s.serve fresh request).response = _ :=
      serve_of_returned hlate hgiven
    rw [hwork] at hserve
    exact ⟨hserve.1, _, hserve.2, hreports result, Lookup.status_eq_ok_iff (hreports result)⟩

/-- A client that says of every address that it holds nothing but its own name. -/
def mirror : Client where
  asset := "BTC"
  info := .instant (.error (.notFound "BTC"))
  balance address := .instant (.ok (.single "BTC" address))
  transaction id := .instant (.error (.invalidInput id))

/-- A request for a balance whose path has escapes in it. -/
def escapedRequest : Request := { method := .get, path := "/nodes/b%74c/addrs/a%2Fb/balance" }

/-- The client is asked for the address with a slash that the path has an escape for. -/
theorem serve_of_looksUp_escapedRequest :
    let s : Server := ⟨.register .empty "BTC" mirror, .ofSeconds 30⟩
    (s.serve "1" escapedRequest).calls = [.balance "BTC" "a/b"] ∧
      ∃ response, (s.serve "1" escapedRequest).response = some response ∧ response.status = 200 ∧
        response.read (decodeData Balance.decode) = .ok (.single "BTC" "a/b") := by
  intro s
  have hlooks : escapedRequest.LooksUp (.balance "btc" "a/b") :=
    @Request.LooksUp.balance escapedRequest "b%74c" "btc" "a%2Fb" "a/b"
      ⟨by decide, by decide +kernel⟩ ⟨by decide, by decide +kernel⟩ rfl
  have hfind : s.registry.find? "btc" = some mirror := by
    rw [Registry.find?_register]
    exact if_pos (by decide +kernel)
  obtain ⟨hcalls, response, hresponse, hreports, -⟩ :=
    (serve_of_looksUp s "1" hlooks (.inl rfl)).2 mirror hfind _ .zero rfl (by decide)
  exact ⟨hcalls, response, hresponse, hreports.1, hreports.2⟩

end Server

end AssetOracle.Http
