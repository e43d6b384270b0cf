import AssetOracle.Proofs.Http.Lookup

/-!
# The admission of imports

A request for an import passes four gates before a client imports anything: its asset has to be
registered, its body has to be read, the address in it must not be blank, and the client has to have
an importer. The first gate that is shut decides about the response, and only behind the last one a
client is called (`Server.serve_of_import`).
-/

namespace AssetOracle.Http

open Json (Portable)

variable {request : Request} {registry : Registry Client} {asset address fresh message : String}
  {client : Client} {importer : String → Import}

/-! ## The gates of a request -/

/-- Whether a request asks for an import at an asset's node. -/
def Request.AsksImport (r : Request) (asset : String) : Prop :=
  r.method = .post ∧
    ∃ segment, Target.StandsFor segment asset ∧ r.path = "/nodes/" ++ segment ++ "/addrs/import"

/-- Whether a request names an address: its body is read, and this is what is left of the address in
    it without the white space around it, which is not nothing. -/
def Request.Names (r : Request) (address : String) : Prop :=
  ∃ body, r.decodeBody ImportRequest.decode = .ok body ∧ Text.trim body.address = address ∧
    address ≠ ""

/-- Whether a request names no address, and in which words it is told so. -/
def Request.NamesNone (r : Request) (message : String) : Prop :=
  r.decodeBody ImportRequest.decode = .error message ∨
    ∃ body, r.decodeBody ImportRequest.decode = .ok body ∧ Text.trim body.address = "" ∧
      message = "addr must not be empty"

theorem Request.importAddress_eq {body : ImportRequest}
    (h : request.decodeBody ImportRequest.decode = .ok body) :
    request.importAddress = if Text.trim body.address = "" then .error "addr must not be empty"
      else .ok (Text.trim body.address) := by
  unfold importAddress
  rw [h]
  simp only [String.isEmpty_iff]
  rfl

theorem Request.importAddress_of_error
    (h : request.decodeBody ImportRequest.decode = .error message) :
    request.importAddress = .error message := by
  unfold importAddress
  rw [h]
  rfl

/-- A request names one address, or none. -/
theorem Request.names_cases (r : Request) :
    (∃ address, r.Names address ∧ r.importAddress = .ok address) ∨
      ∃ message, r.NamesNone message ∧ r.importAddress = .error message := by
  cases hbody : r.decodeBody ImportRequest.decode with
  | error message => exact .inr ⟨message, .inl hbody, importAddress_of_error hbody⟩
  | ok body =>
    have haddress := importAddress_eq hbody
    by_cases hblank : Text.trim body.address = ""
    · rw [if_pos hblank] at haddress
      exact .inr ⟨_, .inr ⟨body, hbody, hblank, rfl⟩, haddress⟩
    · rw [if_neg hblank] at haddress
      exact .inl ⟨_, ⟨body, hbody, rfl, hblank⟩, haddress⟩

theorem Request.importAddress_of_names (h : request.Names address) :
    request.importAddress = .ok address := by
  obtain ⟨body, hbody, rfl, hblank⟩ := h
  rw [importAddress_eq hbody, if_neg hblank]

/-- Whether a response tells how an importer answered. -/
def Response.TellsImporter (r : Response) : NodeResult Unit → Prop
  | .ok () => r.status = 200 ∧ r.read (decodeData Decoder.text) = .ok "success"
  | .error (.notFound asset) => r.ReportsMissing asset
  | .error (.invalidInput text) =>
    r.ReportsFailure 400 101 (NodeError.invalidInput text).message
  | .error (.timeout operation after) =>
    r.ReportsFailure 504 201 (NodeError.timeout operation after).message
  | .error (.failed asset operation cause) =>
    r.ReportsFailure 400 201 (NodeError.failed asset operation cause).message
  | .error (.unsupported asset capability) =>
    r.ReportsFailure 400 201 (NodeError.unsupported asset capability).message

/-- The response to an importer's answer. -/
def Response.ofImporter : NodeResult Unit → Response :=
  .ofResult .cannotImport fun _ => .text "success"

theorem Response.tellsImporter_ofImporter (result : NodeResult Unit) :
    (ofImporter result).TellsImporter result := by
  cases result with
  | ok value =>
    have hportable : Portable (126 + 1) (dataBody (.text "success")) :=
      portable_dataBody (by simp [Portable.text])
    exact ⟨rfl, (Response.read_json hportable _).trans
      (inverts_decodeData Decoder.inverts_text _ _)⟩
  | error e =>
    cases e with
    | notFound asset => exact Response.reportsMissing_ofError asset
    | invalidInput text => exact Response.reportsFailure_ofError
    | timeout operation after => exact Response.reportsFailure_ofError
    | failed asset operation cause => exact Response.reportsFailure_ofError
    | unsupported asset capability => exact Response.reportsFailure_ofError

theorem Response.status_ofImporter_iff {result : NodeResult Unit} :
    (ofImporter result).status = 200 ↔ result = .ok () := by
  constructor
  · intro h
    cases result with
    | ok value => rfl
    | error e => cases e <;> cases h
  · rintro rfl
    rfl

/-! ## Work for an import -/

theorem Work.importing_of_error (h : request.importAddress = .error message) :
    importing request client = refuse (.invalid message) := by
  rw [importing, h]

theorem Work.importing_of_importer_eq_none (h : request.Names address)
    (himporter : client.importer = none) :
    importing request client =
      refuse (.failed 400 .cannotImport
        (NodeError.unsupported client.asset importOperation).message) := by
  rw [importing, Request.importAddress_of_names h]
  simp only [Client.importAddress, himporter]
  rfl

theorem Work.importing_of_importer (h : request.Names address)
    (himporter : client.importer = some importer) :
    importing request client =
      { job := (importer address).job.map Response.ofImporter
        calls := [.importing client.asset address]
        metrics := (importer address).metrics } := by
  rw [importing, Request.importAddress_of_names h]
  simp only [Client.importAddress, himporter]
  rfl

namespace Server

variable {s : Server}

theorem work_of_asksImport (h : request.AsksImport asset) :
    s.work request = .withClient s.registry asset (Work.importing request) := by
  obtain ⟨hmethod, segment, hsegment, hpath⟩ := h
  have htarget : Target.ofPath? request.path = some (.importing segment) := by
    rw [hpath]
    exact Target.ofPath?_importing hsegment.1
  have hdecode : (Target.importing segment).decode = .ok (.importing asset) := by
    rw [Target.decode, Target.parameter_of_standsFor hsegment]
    rfl
  have haccepts : (Target.importing segment).accepts request.method = true := by
    rw [hmethod]
    rfl
  simp only [work, htarget, Work.ofRequest, haccepts, hdecode, Work.ofTarget]
  rfl

/-- What is sent to a request for an import has its content. -/
theorem trim_of_asksImport (h : request.AsksImport asset) (response : Response) :
    trim request response = response := by
  rw [trim, h.1]
  rfl

/-- Whether a request for an import passes every gate, and with which address at which importer. -/
structure Admits (s : Server) (request : Request) (asset : String) (client : Client)
    (importer : String → Import) (address : String) : Prop where
  find : s.registry.find? asset = some client
  names : request.Names address
  importer : client.importer = some importer

/-- Whether a request is answered with a response and no client is called for it. -/
def Refuses (s : Server) (fresh : String) (request : Request) (response : Response) : Prop :=
  (s.serve fresh request).calls = [] ∧ (s.serve fresh request).response = some response

theorem work_of_missing (h : request.AsksImport asset) (hfind : s.registry.find? asset = none) :
    s.work request = .refuse (.assetNotFound asset) := by
  rw [work_of_asksImport h, Work.withClient, hfind]

theorem work_of_found (h : request.AsksImport asset)
    (hfind : s.registry.find? asset = some client) :
    s.work request = .importing request client := by
  rw [work_of_asksImport h, Work.withClient, hfind]

theorem Admits.work (h : request.AsksImport asset)
    (hadmits : s.Admits request asset client importer address) : s.work request =
      { job := (importer address).job.map Response.ofImporter
        calls := [.importing client.asset address]
        metrics := (importer address).metrics } := by
  rw [work_of_found h hadmits.find, Work.importing_of_importer hadmits.names hadmits.importer]

/-- A request for an import that does not pass every gate is refused. -/
theorem refused_or_admits (h : request.AsksImport asset) :
    (∃ e, s.work request = .refuse e ∧ e.status ≠ 200) ∨
      ∃ client importer address, s.Admits request asset client importer address := by
  cases hfind : s.registry.find? asset with
  | none => exact .inl ⟨_, work_of_missing h hfind, by simp [ApiError.status]⟩
  | some client =>
    have hwork := work_of_found h hfind
    rcases request.names_cases with ⟨address, hnames, -⟩ | ⟨message, -, hmessage⟩
    · cases himporter : client.importer with
      | none =>
        rw [Work.importing_of_importer_eq_none hnames himporter] at hwork
        exact .inl ⟨_, hwork, by simp [ApiError.status]⟩
      | some importer => exact .inr ⟨client, importer, address, hfind, hnames, himporter⟩
    · rw [Work.importing_of_error hmessage] at hwork
      exact .inl ⟨_, hwork, by simp [ApiError.status, ApiError.invalid]⟩

theorem refuses_of_work {e : ApiError} (hlimit : s.limit ≠ .zero) (h : request.AsksImport asset)
    (hwork : s.work request = .refuse e) : s.Refuses fresh request (.ofError e) := by
  have hserve : (s.serve fresh request).calls = [] ∧ (s.serve fresh request).response = _ :=
    serve_of_refused hlimit hwork
  rwa [trim_of_asksImport h] at hserve

/-- An importer's answer that comes in time is told. -/
theorem Admits.response {result : NodeResult Unit} {elapsed : Duration}
    (h : request.AsksImport asset) (hadmits : s.Admits request asset client importer address)
    (hending : (importer address).job.ending = .returned result)
    (hends : (importer address).job.endsWithin s.limit = some elapsed) :
    (s.serve fresh request).response = some (.ofImporter result) := by
  have hwork := hadmits.work h
  have hgiven : (s.work request).job.ending = .returned (.ofImporter result) := by
    rw [hwork, Job.map, hending]
  have hin : (s.work request).job.endsWithin s.limit = some elapsed := by
    rw [hwork]
    exact hends
  rw [(serve_of_returned hin hgiven).2, trim_of_asksImport h]

/-- Only an importer that succeeds in time has a request for an import succeed. -/
theorem Admits.of_status (h : request.AsksImport asset)
    (hadmits : s.Admits request asset client importer address) {response : Response}
    (hresponse : (s.serve fresh request).response = some response)
    (hstatus : response.status = 200) :
    (importer address).job.ending = .returned (.ok ()) ∧
      ∃ elapsed, (importer address).job.endsWithin s.limit = some elapsed := by
  have hwork := hadmits.work h
  constructor
  · rcases status_serve hresponse with hlate | ⟨given, hgiven, hsame⟩
    · rw [hlate] at hstatus
      cases hstatus
    · rw [hwork, Job.map] at hgiven
      cases hending : (importer address).job.ending with
      | aborted => simp [hending] at hgiven
      | returned result =>
        simp only [hending, Ending.returned.injEq] at hgiven
        rw [hsame, ← hgiven, Response.status_ofImporter_iff] at hstatus
        rw [hstatus]
  · refine Option.ne_none_iff_exists'.1 fun hlate => ?_
    have hnone : (s.work request).job.endsWithin s.limit = none := by
      rw [hwork]
      exact hlate
    rw [response_of_late hnone] at hresponse
    obtain rfl := Option.some.inj hresponse
    cases hstatus

/-- The calls for a request for an import are those behind the gates. -/
theorem calls_of_asksImport (hlimit : s.limit ≠ .zero) (h : request.AsksImport asset) :
    (s.serve fresh request).calls.length ≤ 1 ∧
      ∀ call, call ∈ (s.serve fresh request).calls ↔ ∃ client importer address,
        s.Admits request asset client importer address ∧
          call = .importing client.asset address := by
  have hadmitted {client importer address}
      (hadmits : s.Admits request asset client importer address) :
      (s.serve fresh request).calls = [.importing client.asset address] := by
    rw [calls_serve hlimit, hadmits.work h]
  rcases s.refused_or_admits h with ⟨e, hwork, -⟩ | ⟨client, importer, address, hadmits⟩
  · have hcalls : (s.serve fresh request).calls = [] := (refuses_of_work hlimit h hwork).1
    refine ⟨by simp [hcalls], fun call => ⟨fun hcall => ?_, ?_⟩⟩
    · rw [hcalls] at hcall
      cases hcall
    · rintro ⟨client, importer, address, hadmits, rfl⟩
      rw [hadmitted hadmits]
      exact List.mem_singleton_self _
  · refine ⟨by simp [hadmitted hadmits], fun call => ⟨fun hcall => ?_, ?_⟩⟩
    · rw [hadmitted hadmits] at hcall
      exact ⟨client, importer, address, hadmits, List.mem_singleton.1 hcall⟩
    · rintro ⟨client, importer, address, hadmits, rfl⟩
      rw [hadmitted hadmits]
      exact List.mem_singleton_self _

/-- A request for an import calls a client at most once, and it does so if and only if the asset is
    registered, the body is read, what is left of its address without the white space around it is
    not empty, and the client has an importer, which is given just that. The gates are passed in this
    order: a missing asset is reported whatever the body is, a body without an address whatever the
    client can, and without an importer this is what the response says. Behind the gates the response
    tells what the importer answers within the limit, and it has status 200 if and only if this is a
    success. -/
theorem serve_of_import (s : Server) (fresh : String) (hlimit : s.limit ≠ .zero)
    (h : request.AsksImport asset) :
    ((s.serve fresh request).calls.length ≤ 1 ∧
      ∀ call, call ∈ (s.serve fresh request).calls ↔ ∃ client importer address,
        s.Admits request asset client importer address ∧
          call = .importing client.asset address) ∧
    (s.registry.find? asset = none →
      ∃ response, s.Refuses fresh request response ∧ response.ReportsMissing asset) ∧
    (∀ client, s.registry.find? asset = some client → (∀ address, ¬request.Names address) →
      ∃ response message, s.Refuses fresh request response ∧ request.NamesNone message ∧
        response.ReportsFailure 400 101 message) ∧
    (∀ client address, s.registry.find? asset = some client → request.Names address →
      client.importer = none →
        ∃ response, s.Refuses fresh request response ∧ response.ReportsFailure 400 201
          (NodeError.unsupported client.asset "import_address").message) ∧
    (∀ client importer address, s.Admits request asset client importer address →
      ∀ result elapsed, (importer address).job.ending = .returned result →
        (importer address).job.endsWithin s.limit = some elapsed →
          ∃ response, (s.serve fresh request).response = some response ∧
            response.TellsImporter result) ∧
    ((∃ response, (s.serve fresh request).response = some response ∧ response.status = 200) ↔
      ∃ client importer address elapsed, s.Admits request asset client importer address ∧
        (importer address).job.ending = .returned (.ok ()) ∧
        (importer address).job.endsWithin s.limit = some elapsed) := by
  refine ⟨calls_of_asksImport hlimit h, ?_, ?_, ?_, ?_, ?_⟩
  · intro hfind
    exact ⟨_, refuses_of_work hlimit h (work_of_missing h hfind),
      Response.reportsMissing_ofError asset⟩
  · intro client hfind hnot
    rcases request.names_cases with ⟨address, hnames, -⟩ | ⟨message, hnone, hmessage⟩
    · exact absurd hnames (hnot address)
    · have hwork := work_of_found h hfind
      rw [Work.importing_of_error hmessage] at hwork
      exact ⟨_, message, refuses_of_work hlimit h hwork, hnone, Response.reportsFailure_ofError⟩
  · intro client address hfind hnames himporter
    have hwork := work_of_found h hfind
    rw [Work.importing_of_importer_eq_none hnames himporter] at hwork
    exact ⟨_, refuses_of_work hlimit h hwork, Response.reportsFailure_ofError⟩
  · intro client importer address hadmits result elapsed hending hends
    exact ⟨_, hadmits.response h hending hends, Response.tellsImporter_ofImporter result⟩
  · constructor
    · rintro ⟨response, hresponse, hstatus⟩
      rcases s.refused_or_admits h with ⟨e, hwork, hne⟩ | ⟨client, importer, address, hadmits⟩
      · rw [(refuses_of_work hlimit h hwork).2] at hresponse
        obtain rfl := Option.some.inj hresponse
        exact absurd hstatus hne
      · obtain ⟨hending, elapsed, hends⟩ := hadmits.of_status h hresponse hstatus
        exact ⟨client, importer, address, elapsed, hadmits, hending, hends⟩
    · rintro ⟨client, importer, address, elapsed, hadmits, hending, hends⟩
      exact ⟨_, hadmits.response h hending hends, rfl⟩

/-- A client that imports every address at once. -/
def watcher : Client := { mirror with importer := some fun _ => { job := .instant (.ok ()) } }

/-- A request to import an address with white space around it. -/
def spacedRequest : Request where
  method := .post
  path := "/nodes/b%74c/addrs/import"
  headers := [("content-type", "application/json")]
  body := Text.Utf8.encode "\x7b\"addr\":\" a b \"\x7d"

theorem asksImport_spacedRequest : spacedRequest.AsksImport "btc" :=
  ⟨rfl, "b%74c", ⟨by decide, by decide +kernel⟩, by decide⟩

/-- The importer is given the address without the spaces around it; a client without an importer and
    a server without the asset do not get that far. -/
theorem serve_of_import_spacedRequest :
    ((⟨.register .empty "BTC" watcher, .ofSeconds 30⟩ : Server).serve "1" spacedRequest).calls =
        [.importing "BTC" "a b"] ∧
      (∃ response, (⟨.register .empty "BTC" mirror, .ofSeconds 30⟩ : Server).Refuses "1"
        spacedRequest response ∧ response.status = 400) ∧
      ∃ response, (⟨.empty, .ofSeconds 30⟩ : Server).Refuses "1" spacedRequest response ∧
        response.status = 404 := by
  have hlimit : (Duration.ofSeconds 30) ≠ .zero := by decide
  have hfind (client : Client) :
      (Registry.register .empty "BTC" client).find? "btc" = some client := by
    rw [Registry.find?_register]
    exact if_pos (by decide +kernel)
  have hbody : spacedRequest.decodeBody ImportRequest.decode = .ok ⟨" a b "⟩ := by decide +kernel
  have hnames : spacedRequest.Names "a b" := ⟨_, hbody, by decide +kernel, by decide⟩
  refine ⟨?_, ?_, ?_⟩
  · obtain ⟨⟨hlength, hcalls⟩, -⟩ :=
      serve_of_import ⟨.register .empty "BTC" watcher, .ofSeconds 30⟩ "1" hlimit
        asksImport_spacedRequest
    have hcall := (hcalls (.importing "BTC" "a b")).2
      ⟨watcher, _, "a b", ⟨hfind watcher, hnames, rfl⟩, rfl⟩
    obtain ⟨call, hsingle⟩ := List.length_eq_one_iff.1
      (Nat.le_antisymm hlength (List.length_pos_of_mem hcall))
    rw [hsingle, List.mem_singleton] at hcall
    rw [hsingle, hcall]
  · obtain ⟨-, -, -, hincapable, -⟩ :=
      serve_of_import ⟨.register .empty "BTC" mirror, .ofSeconds 30⟩ "1" hlimit
        asksImport_spacedRequest
    obtain ⟨response, hrefuses, hreports⟩ := hincapable mirror "a b" (hfind mirror) hnames rfl
    exact ⟨response, hrefuses, hreports.1⟩
  · obtain ⟨-, hmissing, -⟩ :=
      serve_of_import ⟨.empty, .ofSeconds 30⟩ "1" hlimit asksImport_spacedRequest
    obtain ⟨response, hrefuses, hreports⟩ := hmissing rfl
    exact ⟨response, hrefuses, hreports.1⟩

end Server

end AssetOracle.Http
