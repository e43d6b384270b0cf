import AssetOracle.Http.Server
import AssetOracle.Proofs.Node.Attribution
import AssetOracle.Proofs.Registry.Bootstrap

/-!
# What the statuses of responses say

The work for a target takes the errors of one client and turns each into a status. If no client says
of itself that it is not registered, and clients run out of time in imports only, then a status says
what happened: 404 that the asset is not registered, and 504 that an import ran out of time
(`Work.explains_ofTarget`). The adapters of a configuration are such clients
(`Adapter.blameless_client`).
-/

namespace AssetOracle

theorem Duration.zero_lt_of_ne_zero {d : Duration} (h : d ≠ .zero) : Duration.zero < d := by
  obtain ⟨n⟩ := d
  apply Nat.pos_of_ne_zero
  rintro rfl
  exact h rfl

/-- Nothing ends within no time. -/
theorem Job.limit_ne_zero {α : Type} {job : Job α} {elapsed limit : Duration}
    (h : job.endsWithin limit = some elapsed) : limit ≠ .zero := by
  rintro rfl
  have hlt := of_decide_eq_true (Option.filter_eq_some_iff.1 h).2
  exact absurd hlt (Nat.not_lt_zero _)

namespace Http

variable {registry : Registry Client} {client : Client} {request : Request}
  {target decoded : Target} {response : Response} {asset fresh : String} {status : Nat}

@[simp] theorem ApiError.status_invalid (message : String) : (invalid message).status = 400 := rfl

@[simp] theorem Response.status_json (status : Nat) (body : Json) : (json status body).status = status :=
  rfl

@[simp] theorem Response.status_text (status : Nat) (s : String) : (text status s).status = status :=
  rfl

@[simp] theorem Response.status_bare (status : Nat) : (bare status).status = status := rfl

@[simp] theorem Response.status_ofData (data : Json) : (ofData data).status = 200 := rfl

@[simp] theorem Response.status_ofError (e : ApiError) : (ofError e).status = e.status := rfl

/-- The asset that a target asks for. -/
def Target.asset? : Target → Option String
  | .ping => none
  | .nodes => none
  | .info asset => some asset
  | .balance asset _ => some asset
  | .importing asset => some asset
  | .transaction asset _ => some asset

/-- Whether a client's errors have status 400, but for imports that run out of time. -/
structure Blameless (client : Client) : Prop where
  info : ∀ e code, client.info.ending = .returned (.error e) →
    (ApiError.ofNodeError e code).status = 400
  balance : ∀ address e code, (client.balance address).ending = .returned (.error e) →
    (ApiError.ofNodeError e code).status = 400
  transaction : ∀ id e code, (client.transaction id).ending = .returned (.error e) →
    (ApiError.ofNodeError e code).status = 400
  importing : ∀ address e code,
    (client.importAddress address).job.ending = .returned (.error e) →
      (ApiError.ofNodeError e code).status = 400 ∨ (ApiError.ofNodeError e code).status = 504

/-- Whether the statuses 404 and 504 have their reasons: an asset that is not registered, and an
    import. -/
structure Explains (registry : Registry Client) (target : Target) (status : Nat) : Prop where
  missing : status = 404 → ∃ asset, target.asset? = some asset ∧ registry.find? asset = none
  late : status = 504 → ∃ asset, target = .importing asset

theorem explains_of_ne (hmissing : status ≠ 404) (hlate : status ≠ 504) :
    Explains registry target status :=
  ⟨fun h => absurd h hmissing, fun h => absurd h hlate⟩

/-- A result is answered with status 200, or with the status of its error. -/
theorem status_of_ofResult {α : Type} {code : ErrorCode} {encode : α → Json}
    {job : Job (NodeResult α)}
    (h : (job.map (Response.ofResult code encode)).ending = .returned response) :
    response.status = 200 ∨ ∃ e, job.ending = .returned (.error e) ∧
      response.status = (ApiError.ofNodeError e code).status := by
  unfold Job.map at h
  cases hend : job.ending with
  | aborted =>
    simp only [hend] at h
    cases h
  | returned result =>
    simp only [hend] at h
    obtain rfl := Ending.returned.inj h
    cases result with
    | ok value => exact .inl rfl
    | error e => exact .inr ⟨e, rfl, rfl⟩

namespace Work

theorem explains_answer (hmissing : response.status ≠ 404) (hlate : response.status ≠ 504)
    {given : Response} (h : (answer response).job.ending = .returned given) :
    Explains registry target given.status := by
  obtain rfl := Ending.returned.inj h
  exact explains_of_ne hmissing hlate

/-- Work with a client is explained if it is with every registered client. -/
theorem explains_withClient {work : Client → Work} (hasset : target.asset? = some asset)
    (hwork : ∀ client, registry.find? asset = some client →
      (work client).job.ending = .returned response → Explains registry target response.status)
    (h : (withClient registry asset work).job.ending = .returned response) :
    Explains registry target response.status := by
  unfold withClient at h
  cases hfind : registry.find? asset with
  | none =>
    rw [hfind] at h
    obtain rfl := Ending.returned.inj h
    exact ⟨fun _ => ⟨asset, hasset, hfind⟩, fun h504 => by cases h504⟩
  | some client =>
    rw [hfind] at h
    exact hwork client hfind h

theorem explains_forward {α : Type} {code : ErrorCode} {encode : α → Json} {call : Client.Call}
    {job : Job (NodeResult α)}
    (hjob : ∀ e, job.ending = .returned (.error e) → (ApiError.ofNodeError e code).status = 400)
    (h : (forward code encode call job).job.ending = .returned response) :
    Explains registry target response.status := by
  rcases status_of_ofResult h with hok | ⟨e, he, herror⟩
  · apply explains_of_ne <;> simp [hok]
  · apply explains_of_ne <;> simp [herror, hjob e he]

theorem explains_importing (hclient : Blameless client)
    (h : (importing request client).job.ending = .returned response) :
    Explains registry (.importing asset) response.status := by
  unfold importing at h
  cases haddress : request.importAddress with
  | error message =>
    rw [haddress] at h
    exact explains_answer (by simp) (by simp) h
  | ok address =>
    rw [haddress] at h
    refine ⟨fun h404 => ?_, fun _ => ⟨asset, rfl⟩⟩
    rcases status_of_ofResult h with hok | ⟨e, he, herror⟩
    · rw [hok] at h404
      cases h404
    · rcases hclient.importing address e .cannotImport he with hstatus | hstatus
      · rw [herror, hstatus] at h404
        cases h404
      · rw [herror, hstatus] at h404
        cases h404

theorem explains_list (h : (list registry request).job.ending = .returned response) :
    Explains registry target response.status := by
  unfold list at h
  cases hquery : request.nodesQuery with
  | error message =>
    rw [hquery] at h
    exact explains_answer (by simp) (by simp) h
  | ok query =>
    rw [hquery] at h
    obtain rfl := Ending.returned.inj h
    exact explains_of_ne (by simp) (by simp)

theorem explains_ofTarget
    (hclients : ∀ asset client, registry.find? asset = some client → Blameless client)
    (h : (ofTarget registry request target).job.ending = .returned response) :
    Explains registry target response.status := by
  cases target with
  | ping => exact explains_answer (by simp) (by simp) h
  | nodes => exact explains_list h
  | info asset =>
    apply explains_withClient rfl _ h
    intro client hfind
    exact explains_forward fun e => (hclients asset client hfind).info e .info
  | balance asset address =>
    apply explains_withClient rfl _ h
    intro client hfind
    exact explains_forward fun e => (hclients asset client hfind).balance address e .balance
  | importing asset =>
    apply explains_withClient rfl _ h
    intro client hfind
    exact explains_importing (hclients asset client hfind)
  | transaction asset id =>
    apply explains_withClient rfl _ h
    intro client hfind
    exact explains_forward fun e => (hclients asset client hfind).transaction id e .transaction

end Work

theorem Target.exists_importing_of_decode (h : target.decode = .ok (.importing asset)) :
    ∃ raw, target = .importing raw := by
  cases target with
  | importing raw => exact ⟨raw, rfl⟩
  | ping => cases h
  | nodes => cases h
  | info raw =>
    obtain ⟨text, -, h⟩ := Result.bind_eq_ok_iff.1 h
    cases h
  | balance raw address =>
    obtain ⟨text, -, h⟩ := Result.bind_eq_ok_iff.1 h
    obtain ⟨text, -, h⟩ := Result.bind_eq_ok_iff.1 h
    cases h
  | transaction raw id =>
    obtain ⟨text, -, h⟩ := Result.bind_eq_ok_iff.1 h
    obtain ⟨text, -, h⟩ := Result.bind_eq_ok_iff.1 h
    cases h

/-- A request whose method or whose escapes are at fault is answered with another status than 404
    and 504. -/
theorem Work.explains_ofRequest
    (hclients : ∀ asset client, registry.find? asset = some client → Blameless client)
    (h : (ofRequest registry request target).job.ending = .returned response) :
    (response.status = 404 → ∃ decoded asset, target.decode = .ok decoded ∧
        decoded.asset? = some asset ∧ registry.find? asset = none) ∧
      (response.status = 504 → ∃ asset, target = .importing asset) := by
  unfold ofRequest at h
  by_cases haccepts : target.accepts request.method = false
  · rw [if_pos haccepts] at h
    obtain rfl := Ending.returned.inj h
    constructor
    · intro h404
      cases h404
    · intro h504
      cases h504
  · rw [if_neg haccepts] at h
    cases hdecode : target.decode with
    | error message =>
      rw [hdecode] at h
      obtain rfl := Ending.returned.inj h
      constructor
      · intro h404
        cases h404
      · intro h504
        cases h504
    | ok decoded =>
      rw [hdecode] at h
      have hexplains := explains_ofTarget hclients h
      constructor
      · intro h404
        obtain ⟨asset, hasset, hfind⟩ := hexplains.missing h404
        exact ⟨decoded, asset, rfl, hasset, hfind⟩
      · intro h504
        obtain ⟨asset, rfl⟩ := hexplains.late h504
        exact Target.exists_importing_of_decode hdecode

/-! ## The server -/

namespace Server

variable {s : Server}

@[simp] theorem status_trim : (trim request response).status = response.status := by
  unfold trim
  split <;> rfl

/-- The four ways in which a request is served: no work is begun for it; its work takes too long;
    its work breaks off; or its work returns a response, which is counted and sent. -/
theorem serve_cases (s : Server) (fresh : String) (request : Request) :
    (s.limit = .zero ∧
      s.serve fresh request = ⟨some tooLong, request.id?.getD fresh, .zero, [], []⟩) ∨
    (s.limit ≠ .zero ∧ (s.work request).job.endsWithin s.limit = none ∧
      s.serve fresh request = ⟨some tooLong, request.id?.getD fresh, s.limit,
        (s.work request).calls, countedBefore s.limit (s.work request).metrics⟩) ∨
    (∃ elapsed, (s.work request).job.endsWithin s.limit = some elapsed ∧
      (s.work request).job.ending = .aborted ∧
      s.serve fresh request = ⟨none, request.id?.getD fresh, elapsed, (s.work request).calls,
        countedBefore s.limit (s.work request).metrics⟩) ∨
    ∃ elapsed response, (s.work request).job.endsWithin s.limit = some elapsed ∧
      (s.work request).job.ending = .returned response ∧
      s.serve fresh request = ⟨some (trim request response), request.id?.getD fresh, elapsed,
        (s.work request).calls,
        countedBefore s.limit (s.work request).metrics ++ count request response⟩ := by
  by_cases hlimit : s.limit = .zero
  · exact .inl ⟨hlimit, if_pos hlimit⟩
  · have hserve : s.serve fresh request =
        finish s.limit request (request.id?.getD fresh) (s.work request) := if_neg hlimit
    rw [hserve, finish]
    cases hends : (s.work request).job.endsWithin s.limit with
    | none => exact .inr (.inl ⟨hlimit, rfl, rfl⟩)
    | some elapsed =>
      cases hending : (s.work request).job.ending with
      | aborted => exact .inr (.inr (.inl ⟨elapsed, rfl, rfl, rfl⟩))
      | returned response => exact .inr (.inr (.inr ⟨elapsed, response, rfl, rfl, rfl⟩))

/-- Work that returns a response within the limit is done, and the response is sent. -/
theorem serve_of_returned {elapsed : Duration}
    (hends : (s.work request).job.endsWithin s.limit = some elapsed)
    (hending : (s.work request).job.ending = .returned response) :
    (s.serve fresh request).calls = (s.work request).calls ∧
      (s.serve fresh request).response = some (trim request response) := by
  rcases s.serve_cases fresh request with ⟨hlimit, -⟩ | ⟨-, hnone, -⟩ | ⟨_, -, haborted, -⟩ |
    ⟨_, given, -, hgiven, hserve⟩
  · exact absurd hlimit (Job.limit_ne_zero hends)
  · rw [hnone] at hends
    cases hends
  · rw [haborted] at hending
    cases hending
  · obtain rfl : given = response := Ending.returned.inj (hgiven.symm.trans hending)
    rw [hserve]
    exact ⟨rfl, rfl⟩

/-- A request takes as long as its work, up to the limit. -/
theorem elapsed_serve : (s.serve fresh request).elapsed =
    ((s.work request).job.endsWithin s.limit).getD s.limit := by
  rcases s.serve_cases fresh request with ⟨hzero, hserve⟩ | ⟨-, hends, hserve⟩ |
    ⟨_, hends, -, hserve⟩ | ⟨_, _, hends, -, hserve⟩
  · have hends : (s.work request).job.endsWithin s.limit = none := by
      by_contra hsome
      obtain ⟨elapsed, helapsed⟩ := Option.ne_none_iff_exists'.1 hsome
      exact Job.limit_ne_zero helapsed hzero
    rw [hserve, hends, hzero]
    rfl
  · rw [hserve, hends]
    rfl
  · rw [hserve, hends]
    rfl
  · rw [hserve, hends]
    rfl

/-- If there is any time, all the work for a request is begun. -/
theorem calls_serve (hlimit : s.limit ≠ .zero) :
    (s.serve fresh request).calls = (s.work request).calls := by
  rcases s.serve_cases fresh request with ⟨hzero, -⟩ | ⟨-, -, hserve⟩ | ⟨_, -, -, hserve⟩ |
    ⟨_, _, -, -, hserve⟩
  · exact absurd hzero hlimit
  · rw [hserve]
  · rw [hserve]
  · rw [hserve]

/-- Work that does not end within the limit is not waited for any longer. -/
theorem response_of_late (hends : (s.work request).job.endsWithin s.limit = none) :
    (s.serve fresh request).response = some tooLong := by
  rcases s.serve_cases fresh request with ⟨-, hserve⟩ | ⟨-, -, hserve⟩ | ⟨_, hin, -, -⟩ |
    ⟨_, _, hin, -, -⟩
  · rw [hserve]
  · rw [hserve]
  · rw [hends] at hin
    cases hin
  · rw [hends] at hin
    cases hin

/-- A request that is refused is refused at once, and no client is called for it. -/
theorem serve_of_refused {e : ApiError} (hlimit : s.limit ≠ .zero)
    (hwork : s.work request = .refuse e) :
    (s.serve fresh request).calls = [] ∧
      (s.serve fresh request).response = some (trim request (.ofError e)) := by
  have hends : (s.work request).job.endsWithin s.limit = some .zero := by
    rw [hwork]
    simp [Work.refuse, Work.answer, Job.instant, Job.endsWithin, Duration.zero_lt_of_ne_zero hlimit]
  have hending : (s.work request).job.ending = .returned (.ofError e) := by
    rw [hwork]
    rfl
  have hcalls : (s.work request).calls = [] := by
    rw [hwork]
    rfl
  rw [← hcalls]
  exact serve_of_returned hends hending

/-- A response is the one of the work for the request, or says that the work took too long. -/
theorem status_serve (h : (s.serve fresh request).response = some response) :
    response.status = 408 ∨
      ∃ given, (s.work request).job.ending = .returned given ∧ response.status = given.status := by
  rcases s.serve_cases fresh request with ⟨-, hserve⟩ | ⟨-, -, hserve⟩ | ⟨_, -, -, hserve⟩ |
    ⟨_, given, -, hgiven, hserve⟩
  · rw [hserve] at h
    obtain rfl := Option.some.inj h
    exact .inl rfl
  · rw [hserve] at h
    obtain rfl := Option.some.inj h
    exact .inl rfl
  · rw [hserve] at h
    cases h
  · rw [hserve] at h
    obtain rfl := Option.some.inj h
    exact .inr ⟨given, hgiven, status_trim⟩

/-- Statuses 404 and 504 have their reasons also after the limit for a request has been applied, and
    for requests that name no target. -/
theorem explains_serve
    (hclients : ∀ asset client, s.registry.find? asset = some client → Blameless client)
    (h : (s.serve fresh request).response = some response) :
    (∀ target, Target.ofPath? request.path = some target → response.status = 404 →
        ∃ decoded asset, target.decode = .ok decoded ∧ decoded.asset? = some asset ∧
          s.registry.find? asset = none) ∧
      (response.status = 504 → ∃ asset, Target.ofPath? request.path = some (.importing asset)) := by
  rcases status_serve h with hlate | ⟨given, hgiven, hstatus⟩
  · simp [hlate]
  · rw [hstatus]
    cases htarget : Target.ofPath? request.path with
    | none =>
      simp only [work, htarget] at hgiven
      obtain rfl := Ending.returned.inj hgiven
      simp
    | some target =>
      simp only [work, htarget] at hgiven
      have hexplains := Work.explains_ofRequest hclients hgiven
      constructor
      · intro other hother
        obtain rfl := Option.some.inj hother
        exact hexplains.1
      · intro h504
        obtain ⟨asset, rfl⟩ := hexplains.2 h504
        exact ⟨asset, rfl⟩

/-- A request for an asset that is not registered is told so at once. -/
theorem exists_response_of_missing (hlimit : s.limit ≠ .zero)
    (htarget : Target.ofPath? request.path = some target)
    (haccepts : target.accepts request.method = true) (hdecode : target.decode = .ok decoded)
    (hasset : decoded.asset? = some asset) (hfind : s.registry.find? asset = none) :
    ∃ response, (s.serve fresh request).response = some response ∧ response.status = 404 := by
  have hwork : s.work request = .refuse (.assetNotFound asset) := by
    simp only [work, htarget, Work.ofRequest, haccepts, hdecode]
    cases decoded <;> simp_all [Target.asset?, Work.ofTarget, Work.withClient]
  refine ⟨trim request (.ofError (.assetNotFound asset)), ?_, status_trim⟩
  exact (serve_of_refused hlimit hwork).2

end Server

end Http

/-! ## The adapters of a configuration -/

theorem Adapter.FailsAsItself.blameless {a : Adapter} {limit : Duration} {node : Rpc.Talk.Node}
    (h : a.FailsAsItself limit node) : Http.Blameless (a.client node) where
  info e code he := by
    obtain ⟨cause, rfl⟩ := h.info e he
    rfl
  balance address e code he := by
    rcases h.balance address e he with ⟨cause, rfl⟩ | ⟨-, message, rfl⟩ <;> rfl
  transaction id e code he := by
    rcases h.transaction id e he with ⟨cause, rfl⟩ | ⟨-, message, rfl⟩ <;> rfl
  importing address e code he := by
    by_cases hkind : a.kind = .bitcoin
    · rcases h.importing hkind address e he with ⟨cause, rfl⟩ | rfl
      · exact .inl rfl
      · exact .inr rfl
    · rw [h.unsupported hkind address] at he
      cases he
      exact .inl rfl

/-- An adapter without imports is not called for one. -/
theorem Http.Work.calls_importing_eq_nil {client : Client} {request : Http.Request}
    (h : client.importer = none) : (Http.Work.importing request client).calls = [] := by
  unfold Http.Work.importing
  cases request.importAddress with
  | error message => rfl
  | ok address =>
    simp only [h]
    rfl

namespace Config

open Http (Target)

variable {env : Environment} {c : Config} {r : Registry Adapter}

theorem blameless_of_find? (h : c.registry env = .ok r) (nodes : Adapter → Rpc.Talk.Node)
    {asset : String} {client : Client}
    (hfind : (r.map fun a => a.client (nodes a)).find? asset = some client) :
    Http.Blameless client := by
  rw [Registry.find?_map] at hfind
  obtain ⟨a, ha, rfl⟩ := Option.map_eq_some_iff.1 hfind
  have hmem := (Keyed.find?_eq_some_iff r.ascending).1 ha
  obtain ⟨node, -, -, hserves⟩ := serves_of_mem_entries h hmem
  exact (Adapter.failsAsItself hserves.importing).blameless

/-- The errors of every adapter that is made for a configuration name the adapter's own asset and
    the operation it was asked for, however the nodes behave and whatever channels are shared; only
    account-based nodes refuse an input, only imports of output-based nodes run out of time, and
    no other adapter can import. So over HTTP a request that asks for an asset is answered with
    status 404 if and only if the asset is not registered, and with status 504 only if it is to
    import. -/
theorem errors_name_adapter (h : c.registry env = .ok r) (nodes : Adapter → Rpc.Talk.Node) :
    (∃ made, r = .ofHistory made ∧
      List.Forall₂ (fun (node : NodeConfig) (e : String × Adapter) =>
        e.1 = node.asset ∧ e.2.asset = node.asset ∧ e.2.kind = node.kind ∧
        e.2.FailsAsItself (.ofSeconds c.timeouts.importing.toNat) (nodes e.2) ∧
        (e.2.kind ≠ .bitcoin → ∀ request,
          (Http.Work.importing request (e.2.client (nodes e.2))).calls = [])) c.nodes made) ∧
    ∀ limit fresh request,
      let server : Http.Server := ⟨r.map fun a => a.client (nodes a), limit⟩
      (∀ response, (server.serve fresh request).response = some response →
        (∀ target, Target.ofPath? request.path = some target → response.status = 404 →
          ∃ decoded asset, target.decode = .ok decoded ∧ decoded.asset? = some asset ∧
            r.get asset = .error (.notFound asset)) ∧
        (response.status = 504 → ∃ asset, Target.ofPath? request.path = some (.importing asset))) ∧
      (∀ target decoded asset, limit ≠ .zero → Target.ofPath? request.path = some target →
        target.accepts request.method = true → target.decode = .ok decoded →
        decoded.asset? = some asset → r.get asset = .error (.notFound asset) →
          ∃ response, (server.serve fresh request).response = some response ∧
            response.status = 404) := by
  constructor
  · obtain ⟨made, hmade, rfl⟩ := registers_of_registry h
    refine ⟨made, rfl, hmade.imp fun node e hnode => ?_⟩
    obtain ⟨hid, -, hserves⟩ := hnode
    refine ⟨hid, hserves.asset, hserves.kind, Adapter.failsAsItself hserves.importing, ?_⟩
    intro hkind request
    exact Http.Work.calls_importing_eq_nil (Adapter.importer_eq_none hkind)
  · intro limit fresh request server
    have hget : ∀ asset, r.get asset = .error (.notFound asset) ↔
        server.registry.find? asset = none := by
      intro asset
      rw [Registry.get_eq_notFound_iff, Registry.find?_map, Option.map_eq_none_iff]
    constructor
    · intro response hresponse
      have hexplains := Http.Server.explains_serve (fun _ _ => blameless_of_find? h nodes) hresponse
      refine ⟨fun target htarget h404 => ?_, hexplains.2⟩
      obtain ⟨decoded, asset, hdecode, hasset, hmissing⟩ := hexplains.1 target htarget h404
      exact ⟨decoded, asset, hdecode, hasset, (hget asset).2 hmissing⟩
    · intro target decoded asset hlimit htarget haccepts hdecode hasset hmissing
      exact Http.Server.exists_response_of_missing hlimit htarget haccepts hdecode hasset
        ((hget asset).1 hmissing)

/-- The second of the nodes is one without imports. -/
theorem errors_name_adapter_ofEachKind :
    ∃ (made : List (String × Adapter)) (a : Adapter),
      ofEachKind.registry (fun _ => none) = .ok (.ofHistory made) ∧ ("XRP", a) ∈ made ∧
      ((a.client fun _ _ => .stall).importAddress "r").job =
        .instant (.error (.unsupported "XRP" "import_address")) := by
  obtain ⟨r, hr⟩ := exists_registry_iff.2 fun node hnode => usable_of_isValid isValid_ofEachKind hnode
  obtain ⟨⟨made, rfl, hmade⟩, -⟩ := errors_name_adapter hr fun _ _ _ => .stall
  have hnode : { asset := "XRP", kind := .ripple, url := some "xrp:5005" } ∈ ofEachKind.nodes :=
    List.mem_cons_of_mem _ List.mem_cons_self
  obtain ⟨⟨id, a⟩, he, hid, hasset, hkind, hfails, -⟩ := exists_mem_of_mem_left hmade hnode
  obtain rfl : id = "XRP" := hid
  have hother : a.kind ≠ .bitcoin := by
    rw [hkind]
    decide
  refine ⟨made, a, hr, he, ?_⟩
  rw [hfails.unsupported hother "r", hasset]

end Config

end AssetOracle
