import AssetOracle.Proofs.Http.Lookup
import AssetOracle.Proofs.Text.Blank
import AssetOracle.Proofs.Text.Form

/-!
# Listings over HTTP

What a request for all nodes is answered, by what its query says of the flag `noinfo`. Without the
flag, or with one of any value, the answer is a listing; whether clients are asked for it is decided
by the value. A query that gives the flag again is refused, whatever the values are
(`Server.serve_nodes`).
-/

namespace AssetOracle.Http

open Text (Says equalsIgnoringCase)

variable {request : Request} {s : Server} {fresh : String}

/-! ## The flag -/

/-- The values of the flag in a query, in their order. -/
def Request.flags (r : Request) : List String :=
  ((Text.Form.pairs (r.query.getD "")).filter (·.1 = "noinfo")).map (·.2)

/-- The words for a flag that is given again. -/
def repeatedFlag : String := "Failed to deserialize query string: duplicate field `noinfo`"

/-- Whatever pairs a query is made of, its flags are the values of those with the flag's name. -/
theorem Request.flags_encode {pairs : List (String × String)}
    (hquery : request.query = some (Text.Form.encode pairs)) :
    request.flags = (pairs.filter (·.1 = "noinfo")).map (·.2) := by
  rw [flags, hquery, Option.getD_some, Text.Form.pairs_encode]

theorem Request.nodesQuery_eq (r : Request) :
    r.nodesQuery =
      if r.flags.length ≤ 1 then .ok ⟨r.flags.head?⟩ else .error repeatedFlag := by
  unfold nodesQuery flags
  cases (Text.Form.pairs (r.query.getD "")).filter (·.1 = "noinfo") with
  | nil => rfl
  | cons first rest =>
    cases rest with
    | nil => rfl
    | cons second more =>
      have hmany : ¬(((first :: second :: more).map (·.2)).length ≤ 1) := by simp
      rw [if_neg hmany]
      rfl

theorem trimmed_true : Text.Trimmed "true".toList := by
  constructor
  · intro c hc
    obtain rfl := Option.some.inj hc
    decide
  · intro c hc
    obtain rfl := Option.some.inj hc
    decide

theorem NodesQuery.enrich_eq_false_iff (q : NodesQuery) :
    q.enrich = false ↔ ∃ value, q.noinfo = some value ∧ Says "true" value := by
  unfold enrich
  cases q.noinfo with
  | none => simp
  | some value =>
    rw [Bool.not_eq_false', Text.equalsIgnoringCase_trim_iff trimmed_true]
    simp

/-! ## Responses to listings -/

theorem Server.work_nodes (s : Server) (hmethod : request.method = .get)
    (hpath : request.path = "/nodes") : s.work request = .list s.registry request := by
  have htarget : Target.ofPath? request.path = some .nodes := by
    rw [hpath]
    rfl
  simp only [work, htarget, Work.ofRequest, Target.accepts, hmethod]
  rfl

theorem Server.trim_of_get (hmethod : request.method = .get) (response : Response) :
    trim request response = response := by
  rw [trim, if_neg]
  rw [hmethod]
  decide

theorem Response.read_listing (nodes : List RegisteredNode) :
    (Response.ofData (listingData nodes)).read decodeListing = .ok nodes := by
  have hportable : Json.Portable Json.maxDepth (dataBody (listingData nodes)) :=
    portable_dataBody (portable_listingData nodes)
  rw [ofData, read_json hportable]
  exact inverts_decodeListing _ nodes

namespace Server

variable {elapsed : Duration} {query : NodesQuery} {message : String}

theorem serve_of_nodesQuery (fresh : String) (hmethod : request.method = .get)
    (hpath : request.path = "/nodes")
    (hends : (s.work request).job.endsWithin s.limit = some elapsed)
    (hquery : request.nodesQuery = .ok query) :
    (s.serve fresh request).calls = (s.registry.list query.enrich).calls ∧
      (s.serve fresh request).response =
        some (.ofData (listingData (s.registry.list query.enrich).nodes)) := by
  have hwork := s.work_nodes hmethod hpath
  simp only [Work.list, hquery] at hwork
  have hserve : (s.serve fresh request).calls = _ ∧ (s.serve fresh request).response = _ :=
    serve_of_returned hends (by rw [hwork])
  rw [hwork, trim_of_get hmethod] at hserve
  exact hserve

theorem serve_of_nodesQuery_error (fresh : String) (hmethod : request.method = .get)
    (hpath : request.path = "/nodes")
    (hends : (s.work request).job.endsWithin s.limit = some elapsed)
    (hquery : request.nodesQuery = .error message) :
    (s.serve fresh request).calls = [] ∧
      (s.serve fresh request).response = some (.text 400 message) := by
  have hwork := s.work_nodes hmethod hpath
  simp only [Work.list, hquery] at hwork
  have hserve : (s.serve fresh request).calls = _ ∧ (s.serve fresh request).response = _ :=
    serve_of_returned hends (by rw [hwork]; rfl)
  rw [hwork, trim_of_get hmethod] at hserve
  exact hserve

/-- A request for all nodes whose work ends in time is answered with status 200 if and only if its
    query gives the flag at most once. Then the body is read as a listing: if the flag says `true`,
    no client is asked and all entries are bare; if it does not or is left out, every client is
    asked and its entry has the state it answered with. A query that gives the flag more than once
    is refused with status 400, in words that name the flag, and no client is asked. Which values
    the flag has is read from the pairs of the query; pairs of other names do not matter. -/
theorem serve_nodes (s : Server) (fresh : String) (hmethod : request.method = .get)
    (hpath : request.path = "/nodes")
    (hends : (s.work request).job.endsWithin s.limit = some elapsed) :
    (∀ pairs, request.query = some (Text.Form.encode pairs) →
      request.flags = (pairs.filter (·.1 = "noinfo")).map (·.2)) ∧
    ∃ response, (s.serve fresh request).response = some response ∧
      (response.status = 200 ↔ request.flags.length ≤ 1) ∧
      (2 ≤ request.flags.length →
        response = .text 400 repeatedFlag ∧ (s.serve fresh request).calls = []) ∧
      (∀ flag, request.flags = [flag] → Says "true" flag →
        (s.serve fresh request).calls = [] ∧
        response.read decodeListing = .ok (s.registry.keys.map .bare)) ∧
      (request.flags.length ≤ 1 → (∀ flag ∈ request.flags, ¬Says "true" flag) →
        (s.serve fresh request).calls = s.registry.entries.map (fun e => .info e.2.asset) ∧
        response.read decodeListing =
          .ok (s.registry.entries.map fun e => Listing.entryOf e.1 e.2.info.ending)) := by
  refine ⟨fun pairs => Request.flags_encode, ?_⟩
  have hquery := request.nodesQuery_eq
  by_cases hflags : request.flags.length ≤ 1
  · rw [if_pos hflags] at hquery
    obtain ⟨hcalls, hresponse⟩ := serve_of_nodesQuery fresh hmethod hpath hends hquery
    refine ⟨_, hresponse, ⟨fun _ => hflags, fun _ => rfl⟩, fun hmany => by omega, ?_, ?_⟩
    · intro flag hflag hsays
      have henrich : NodesQuery.enrich ⟨request.flags.head?⟩ = false := by
        rw [NodesQuery.enrich_eq_false_iff]
        exact ⟨flag, by rw [hflag]; rfl, hsays⟩
      rw [henrich] at hcalls ⊢
      refine ⟨hcalls, ?_⟩
      rw [Response.read_listing, Registry.keys, List.map_map]
      rfl
    · intro _ hnot
      have henrich : NodesQuery.enrich ⟨request.flags.head?⟩ = true := by
        rw [← Bool.not_eq_false, NodesQuery.enrich_eq_false_iff]
        rintro ⟨flag, hflag, hsays⟩
        exact hnot flag (List.mem_of_head? hflag) hsays
      rw [henrich] at hcalls ⊢
      exact ⟨hcalls, Response.read_listing _⟩
  · rw [if_neg hflags] at hquery
    obtain ⟨hcalls, hresponse⟩ :=
      serve_of_nodesQuery_error fresh hmethod hpath hends hquery
    have hrefused : (Response.text 400 repeatedFlag).status ≠ 200 := by decide
    refine ⟨_, hresponse, ⟨fun h200 => absurd h200 hrefused, fun hle => absurd hle hflags⟩,
      fun _ => ⟨rfl, hcalls⟩, fun flag hflag => ?_, fun hle => absurd hle hflags⟩
    rw [hflag] at hflags
    exact absurd (Nat.le_refl 1) hflags

/-- A request for all nodes with a flag that says `true` after a blank, and a pair of another
    name. -/
def flaggedRequest : Request :=
  { method := .get, path := "/nodes", query := some "x=1&noinfo=+TRUE" }

/-- The client is not asked, and its entry is bare. -/
theorem serve_nodes_flaggedRequest :
    let s : Server := ⟨.register .empty "BTC" mirror, .ofSeconds 30⟩
    (s.serve "1" flaggedRequest).calls = [] ∧
      ∃ response, (s.serve "1" flaggedRequest).response = some response ∧ response.status = 200 ∧
        response.read decodeListing = .ok [.bare "btc"] := by
  intro s
  have hflags : flaggedRequest.flags = [" TRUE"] := by decide +kernel
  have hkeys : s.registry.keys = ["btc"] := by decide +kernel
  have hsays : Says "true" " TRUE" :=
    ⟨[' '], "TRUE".toList, [], by simp [Text.AllBlank]; decide, by simp [Text.AllBlank],
      by decide, by decide⟩
  obtain ⟨-, response, hresponse, hstatus, -, htrue, -⟩ :=
    @serve_nodes flaggedRequest .zero s "1" rfl rfl (by decide +kernel)
  obtain ⟨hcalls, hread⟩ := htrue " TRUE" hflags hsays
  rw [hkeys] at hread
  exact ⟨hcalls, response, hresponse, hstatus.2 (by rw [hflags]; decide), hread⟩

/-- A request for all nodes that gives the flag again with the same value. -/
def repeatingRequest : Request :=
  { method := .get, path := "/nodes", query := some "noinfo=1&noinfo=1" }

/-- Its work ends in time, but it is not answered with status 200. -/
theorem serve_nodes_repeatingRequest :
    let s : Server := ⟨.register .empty "BTC" mirror, .ofSeconds 30⟩
    (s.work repeatingRequest).job.endsWithin s.limit = some .zero ∧
      ((s.serve "1" repeatingRequest).response.map (·.status)) = some 400 := by
  decide +kernel

end Server

end AssetOracle.Http
