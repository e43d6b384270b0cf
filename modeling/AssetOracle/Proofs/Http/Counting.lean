import AssetOracle.Proofs.Http.Status

/-!
# Which requests are counted

The work for a request counts no request by itself and never answers that it took too long
(`Work.Plain`). So what is counted of a request is the request itself, once, if it names a target
and is answered by its work (`Server.requests_serve`): over any number of requests the count for a
route and a status is the number of clients that were answered so, except that a request that runs
into the limit is not counted (`Arrival.requests_counted`). The clients of adapters are among
those for whom this holds (`Arrival.requests_eq_iff_of_adapters`).
-/

namespace AssetOracle

/-- Whether a metric counts a request. -/
def Metric.IsRequest : Metric → Prop
  | .request .. => True
  | _ => False

theorem Metric.requests_eq_zero {events : List Metric} (h : ∀ event ∈ events, ¬event.IsRequest)
    (route : String) (status : Nat) : requests events route status = 0 :=
  List.count_eq_zero.2 fun hmem => h _ hmem trivial

/-- Whether the imports of a client count no requests. -/
def Client.CountsNoRequest (client : Client) : Prop :=
  ∀ address, ∀ e ∈ (client.importAddress address).metrics, ¬e.2.IsRequest

/-- The imports of an adapter count how long they were waited for, and nothing else. -/
theorem Adapter.countsNoRequest (a : Adapter) (node : Rpc.Talk.Node) :
    (a.client node).CountsNoRequest := by
  have hwait : ∀ (op : SlowOperation) (settled : List Settled) (start : Duration),
      ∀ e ∈ waitMetrics op start settled, ¬e.2.IsRequest := by
    intro op settled
    induction settled with
    | nil =>
      intro start e he
      cases he
    | cons s rest ih =>
      intro start e he
      rcases List.mem_cons.1 he with rfl | he
      · exact id
      · exact ih _ e he
  intro address e he
  cases a with
  | bitcoin c => exact hwait c.importing _ _ e he
  | ripple c => cases he
  | evm c => cases he
  | token t => cases he

/-- A listing counts which nodes answered, and nothing else. -/
theorem Registry.not_isRequest_of_mem_list (r : Registry Client) (enrich : Bool) :
    ∀ event ∈ (r.list enrich).metrics, ¬event.IsRequest := by
  intro event hevent
  cases enrich with
  | false => cases hevent
  | true =>
    obtain ⟨e, -, rfl⟩ := List.mem_map.1 hevent
    exact id

namespace Http

variable {registry : Registry Client} {client : Client} {request : Request} {target : Target}
  {response : Response} {w : Work} {s : Server} {fresh route : String} {status : Nat}
  {limit : Duration}

theorem ApiError.status_ofNodeError_ne (e : NodeError) (code : ErrorCode) :
    (ofNodeError e code).status ≠ 408 := by
  cases e <;> simp [ofNodeError, status, invalid]

/-! ## The work for a request -/

/-- Whether work counts no request by itself and does not answer that it took too long. -/
structure Work.Plain (w : Work) : Prop where
  status : ∀ response, w.job.ending = .returned response → response.status ≠ 408
  metrics : ∀ e ∈ w.metrics, ¬e.2.IsRequest

namespace Work

theorem plain_answer (h : response.status ≠ 408) : (answer response).Plain where
  status given hgiven := by
    obtain rfl := Ending.returned.inj hgiven
    exact h
  metrics e he := by cases he

theorem status_ofResult_ne {α : Type} {code : ErrorCode} {encode : α → Json}
    {job : Job (NodeResult α)}
    (h : (job.map (Response.ofResult code encode)).ending = .returned response) :
    response.status ≠ 408 := by
  rcases status_of_ofResult h with hstatus | ⟨e, -, hstatus⟩
  · simp [hstatus]
  · rw [hstatus]
    exact ApiError.status_ofNodeError_ne e code

theorem plain_forward {α : Type} {code : ErrorCode} {encode : α → Json} {call : Client.Call}
    {job : Job (NodeResult α)} : (forward code encode call job).Plain where
  status _ h := status_ofResult_ne h
  metrics e he := by cases he

theorem plain_withClient {asset : String} {work : Client → Work}
    (h : ∀ client, registry.find? asset = some client → (work client).Plain) :
    (withClient registry asset work).Plain := by
  unfold withClient
  cases hfind : registry.find? asset with
  | none => exact plain_answer (by simp [ApiError.status])
  | some client => exact h client hfind

theorem plain_importing (h : client.CountsNoRequest) : (importing request client).Plain := by
  unfold importing
  cases request.importAddress with
  | error message => exact plain_answer (by simp)
  | ok address => exact ⟨fun _ hresponse => status_ofResult_ne hresponse, h address⟩

theorem plain_list : (list registry request).Plain := by
  unfold list
  cases request.nodesQuery with
  | error message => exact plain_answer (by simp)
  | ok query =>
    refine ⟨fun response hresponse => ?_, fun e he => ?_⟩
    · obtain rfl := Ending.returned.inj hresponse
      simp
    · have hlisting := registry.not_isRequest_of_mem_list query.enrich
      cases hduration : (registry.list query.enrich).duration with
      | none => simp [hduration] at he
      | some duration =>
        simp only [hduration] at he
        obtain ⟨event, hevent, rfl⟩ := List.mem_map.1 he
        exact hlisting event hevent

theorem plain_ofTarget
    (h : ∀ asset client, registry.find? asset = some client → client.CountsNoRequest) :
    (ofTarget registry request target).Plain := by
  cases target with
  | ping => exact plain_answer (by simp)
  | nodes => exact plain_list
  | info asset => exact plain_withClient fun _ _ => plain_forward
  | balance asset address => exact plain_withClient fun _ _ => plain_forward
  | importing asset =>
    exact plain_withClient fun client hfind => plain_importing (h asset client hfind)
  | transaction asset id => exact plain_withClient fun _ _ => plain_forward

theorem plain_ofRequest
    (h : ∀ asset client, registry.find? asset = some client → client.CountsNoRequest) :
    (ofRequest registry request target).Plain := by
  unfold ofRequest
  split
  · exact plain_answer (by simp)
  · split
    · exact plain_answer (by simp)
    · exact plain_ofTarget h

end Work

/-! ## The server -/

/-- The route that a request matches, if any. -/
def Request.route? (r : Request) : Option String := (Target.ofPath? r.path).map Target.template

/-- The status that the client of a request received, if it was answered. -/
def Served.status? (s : Served) : Option Nat := s.response.map (·.status)

namespace Server

theorem plain_work
    (h : ∀ asset client, s.registry.find? asset = some client → client.CountsNoRequest) :
    (s.work request).Plain := by
  unfold work
  split
  · exact Work.plain_ofRequest h
  · exact Work.plain_answer (by simp)

theorem requests_countedBefore (h : w.Plain) :
    Metric.requests (countedBefore limit w.metrics) route status = 0 := by
  apply Metric.requests_eq_zero
  intro event hevent
  obtain ⟨e, he, rfl⟩ := List.mem_map.1 hevent
  exact h.metrics e (List.mem_filter.1 he).1

theorem requests_count :
    Metric.requests (count request response) route status =
      if request.route? = some route ∧ response.status = status then 1 else 0 := by
  unfold count Request.route?
  cases Target.ofPath? request.path with
  | none => simp [Metric.requests]
  | some target => simp [Metric.requests, List.count_singleton]

/-- A request is counted once, for its route and the status it was answered with, unless it took too
    long or was not answered. -/
theorem requests_serve
    (h : ∀ asset client, s.registry.find? asset = some client → client.CountsNoRequest) :
    Metric.requests (s.serve fresh request).metrics route status =
      if request.route? = some route ∧ (s.serve fresh request).status? = some status ∧
        status ≠ 408 then 1 else 0 := by
  have hplain : (s.work request).Plain := plain_work h
  have hnone : Metric.requests (countedBefore s.limit (s.work request).metrics) route status = 0 :=
    requests_countedBefore hplain
  rcases s.serve_cases fresh request with ⟨-, hserve⟩ | ⟨-, -, hserve⟩ | ⟨_, -, -, hserve⟩ |
    ⟨_, response, -, hgiven, hserve⟩
  · rw [hserve]
    simp [Served.status?, tooLong, Metric.requests, eq_comm]
  · rw [hserve]
    simp [hnone, Served.status?, tooLong, eq_comm]
  · rw [hserve]
    simp [hnone, Served.status?]
  · have hne := hplain.status response hgiven
    have hsum : Metric.requests
        (countedBefore s.limit (s.work request).metrics ++ count request response) route status =
        Metric.requests (count request response) route status := by
      rw [Metric.requests, List.count_append, ← Metric.requests, hnone, Nat.zero_add]
      rfl
    have hsame : (request.route? = some route ∧ response.status = status) ↔
        (request.route? = some route ∧ response.status = status ∧ status ≠ 408) := by
      constructor
      · rintro ⟨hroute, rfl⟩
        exact ⟨hroute, rfl, hne⟩
      · rintro ⟨hroute, hstatus, -⟩
        exact ⟨hroute, hstatus⟩
    rw [hserve]
    simp only [hsum, requests_count, Served.status?, Option.map_some, status_trim,
      Option.some.injEq, hsame]

/-- A client is told that the work took too long if and only if it did. -/
theorem status?_serve_eq_tooLong_iff
    (h : ∀ asset client, s.registry.find? asset = some client → client.CountsNoRequest) :
    (s.serve fresh request).status? = some 408 ↔
      s.limit = .zero ∨ (s.work request).job.endsWithin s.limit = none := by
  rcases s.serve_cases fresh request with ⟨hlimit, hserve⟩ | ⟨-, hends, hserve⟩ |
    ⟨_, hends, -, hserve⟩ | ⟨_, response, hends, hgiven, hserve⟩
  · simp [hserve, hlimit, Served.status?, tooLong]
  · simp [hserve, hends, Served.status?, tooLong]
  · simp [hserve, hends, Job.limit_ne_zero hends, Served.status?]
  · have hne := (plain_work h).status response hgiven
    simp [hserve, hends, Job.limit_ne_zero hends, Served.status?, hne]

end Server

/-! ## Many requests -/

/-- A request as it arrives: what the clients answer at that time, an id for it if it brings none,
    and the request itself. -/
structure Arrival where
  registry : Registry Client
  fresh : String
  request : Request

namespace Arrival

variable {arrivals : List Arrival} {events : List Metric}

/-- The request, served up to a limit. -/
def served (limit : Duration) (a : Arrival) : Served :=
  (⟨a.registry, limit⟩ : Server).serve a.fresh a.request

/-- Everything that is counted while requests are served. -/
def counted (limit : Duration) (arrivals : List Arrival) : List Metric :=
  arrivals.flatMap fun a => (a.served limit).metrics

/-- How many of the requests match a route and are answered with a status. -/
def answered (limit : Duration) (arrivals : List Arrival) (route : String) (status : Nat) : Nat :=
  arrivals.countP fun a =>
    a.request.route? = some route ∧ (a.served limit).status? = some status

/-- Whether no client of a registry counts a request. -/
def CountsNoRequest (a : Arrival) : Prop :=
  ∀ asset client, a.registry.find? asset = some client → client.CountsNoRequest

theorem requests_counted (h : ∀ a ∈ arrivals, a.CountsNoRequest) :
    Metric.requests (counted limit arrivals) route status =
      if status = 408 then 0 else answered limit arrivals route status := by
  induction arrivals with
  | nil => simp [counted, answered, Metric.requests]
  | cons a rest ih =>
    obtain ⟨ha, hrest⟩ := List.forall_mem_cons.1 h
    have hone : Metric.requests (a.served limit).metrics route status =
        if a.request.route? = some route ∧ (a.served limit).status? = some status ∧ status ≠ 408
          then 1 else 0 :=
      Server.requests_serve ha
    have hsum : Metric.requests (counted limit (a :: rest)) route status =
        Metric.requests (a.served limit).metrics route status +
          Metric.requests (counted limit rest) route status := by
      simp [counted, Metric.requests]
    have hanswered : answered limit (a :: rest) route status =
        answered limit rest route status +
          if a.request.route? = some route ∧ (a.served limit).status? = some status
            then 1 else 0 := by
      simp [answered, List.countP_cons]
    rw [hsum, ih hrest, hone, hanswered]
    by_cases hlate : status = 408
    · simp [hlate]
    · simp [hlate, Nat.add_comm]

theorem answered_pos_iff : 0 < answered limit arrivals route status ↔
    ∃ a ∈ arrivals, a.request.route? = some route ∧ (a.served limit).status? = some status := by
  simp [answered, List.countP_pos_iff]

theorem requests_of_order (h : ∀ a ∈ arrivals, a.CountsNoRequest)
    (hevents : events.Perm (counted limit arrivals)) : Metric.requests events route status =
      if status = 408 then 0 else answered limit arrivals route status := by
  rw [← requests_counted h]
  exact hevents.count_eq _

/-- A count is wrong if and only if it is the one for 408 and some request was answered so. -/
theorem requests_eq_iff_of_order (h : ∀ a ∈ arrivals, a.CountsNoRequest)
    (hevents : events.Perm (counted limit arrivals)) :
    Metric.requests events route status = answered limit arrivals route status ↔
      ¬(status = 408 ∧ ∃ a ∈ arrivals, a.request.route? = some route ∧
        (a.served limit).status? = some 408) := by
  rw [requests_of_order h hevents]
  by_cases hlate : status = 408
  · subst hlate
    rw [if_pos rfl, and_iff_right rfl, ← answered_pos_iff, Nat.not_lt, Nat.le_zero, eq_comm]
  · simp [hlate]

/-- In whatever order the events of a number of requests are counted, the count for a route and a
    status other than 408 is the number of requests that match the route and whose clients were
    answered so; and there is no count for 408. So a count is wrong if and only if it is the one
    for 408 and some request that matches the route was answered so, which is when its work did not
    end within the limit. -/
theorem requests_eq_answered_iff (h : ∀ a ∈ arrivals, a.CountsNoRequest)
    (hevents : events.Perm (counted limit arrivals)) :
    (∀ route status, status ≠ 408 →
      Metric.requests events route status = answered limit arrivals route status) ∧
    (∀ route, Metric.requests events route 408 = 0) ∧
    (∀ route status, Metric.requests events route status = answered limit arrivals route status ↔
      ¬(status = 408 ∧ ∃ a ∈ arrivals, a.request.route? = some route ∧
        (a.served limit).status? = some 408)) ∧
    ∀ a ∈ arrivals, ((a.served limit).status? = some 408 ↔ limit = .zero ∨
      ((⟨a.registry, limit⟩ : Server).work a.request).job.endsWithin limit = none) := by
  refine ⟨fun route status hne => ?_, fun route => ?_,
    fun route status => requests_eq_iff_of_order h hevents,
    fun a ha => Server.status?_serve_eq_tooLong_iff (h a ha)⟩
  · rw [requests_of_order h hevents, if_neg hne]
  · rw [requests_of_order h hevents, if_pos rfl]

/-- A client that answers for the state of its chain after some time. -/
def clientAfter (duration : Duration) : Client where
  asset := "BTC"
  info := ⟨some duration, .returned (.ok ⟨"main", 1, "00"⟩)⟩
  balance _ := .instant (.ok ⟨[]⟩)
  transaction _ := .instant (.error (.notFound "BTC"))

/-- A request for the state of a chain that comes after some time. -/
def arrivalAfter (duration : Duration) : Arrival where
  registry := .register .empty "BTC" (clientAfter duration)
  fresh := "1"
  request := { method := .get, path := "/nodes/BTC/info" }

theorem countsNoRequest_arrivalAfter (duration : Duration) :
    (arrivalAfter duration).CountsNoRequest := by
  intro asset client hfind
  have hclient : client = clientAfter duration := by
    rw [arrivalAfter, Registry.find?_register] at hfind
    split at hfind
    · exact (Option.some.inj hfind).symm
    · cases hfind
  subst hclient
  intro address e he
  cases he

/-- One of the two requests is answered in time and counted. -/
theorem requests_eq_answered_of_fast_and_slow :
    Metric.requests
        (counted (.ofSeconds 30) [arrivalAfter (.ofSeconds 1), arrivalAfter (.ofSeconds 40)])
        "/nodes/\x7basset_id\x7d/info" 200 =
      answered (.ofSeconds 30) [arrivalAfter (.ofSeconds 1), arrivalAfter (.ofSeconds 40)]
        "/nodes/\x7basset_id\x7d/info" 200 := by
  refine (requests_eq_answered_iff (fun a ha => ?_) (List.Perm.refl _)).1 _ _ (by decide)
  rcases List.mem_cons.1 ha with rfl | ha
  · exact countsNoRequest_arrivalAfter _
  · rw [List.mem_singleton.1 ha]
    exact countsNoRequest_arrivalAfter _

/-- A request that is answered with 408 is not among those that are counted for its route. -/
theorem requests_ne_answered_of_slow :
    answered (.ofSeconds 30) [arrivalAfter (.ofSeconds 40)] "/nodes/\x7basset_id\x7d/info" 408 = 1 ∧
      Metric.requests (counted (.ofSeconds 30) [arrivalAfter (.ofSeconds 40)])
        "/nodes/\x7basset_id\x7d/info" 408 = 0 := by
  decide +kernel

/-! ## The clients of adapters -/

/-- Whether the clients of a registry are those of adapters, however their nodes behave. -/
def OfAdapters (a : Arrival) : Prop :=
  ∃ (r : Registry Adapter) (nodes : Adapter → Rpc.Talk.Node),
    a.registry = r.map fun adapter => adapter.client (nodes adapter)

theorem OfAdapters.countsNoRequest {a : Arrival} (h : a.OfAdapters) : a.CountsNoRequest := by
  obtain ⟨r, nodes, hregistry⟩ := h
  intro asset client hfind
  rw [hregistry, Registry.find?_map] at hfind
  obtain ⟨adapter, -, rfl⟩ := Option.map_eq_some_iff.1 hfind
  exact adapter.countsNoRequest (nodes adapter)

/-- Requests to adapters are counted as they were answered, but for those that took too long,
    whatever their nodes do meanwhile. -/
theorem requests_eq_iff_of_adapters (h : ∀ a ∈ arrivals, a.OfAdapters)
    (hevents : events.Perm (counted limit arrivals)) :
    Metric.requests events route status = answered limit arrivals route status ↔
      ¬(status = 408 ∧ ∃ a ∈ arrivals, a.request.route? = some route ∧
        (a.served limit).status? = some 408) :=
  requests_eq_iff_of_order (fun a ha => (h a ha).countsNoRequest) hevents

end Arrival

end Http

end AssetOracle
