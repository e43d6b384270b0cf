import AssetOracle.Proofs.Bitcoin.Import
import AssetOracle.Proofs.Http.Admission
import AssetOracle.Proofs.Registry.Names
import AssetOracle.Proofs.Registry.Sharing

/-!
# Requests for imports

A request for an import is under two limits: each of the two attempts is waited for as long as the
configuration says of imports, and the request as a whole as long as it says of requests. Whichever
comes first decides (`Server.serve_of_imports`). Validation looks at each limit on its own, so the
outcome of the attempts is certain to be told only if both of them fit into the time of a request
(`Config.importing_of_isValid`), and a valid configuration may leave no time even for the first one
(`Config.impatient`).
-/

namespace AssetOracle

theorem Duration.ofSeconds_add_self_lt_iff {a b : Nat} :
    ofSeconds a + ofSeconds a < ofSeconds b ↔ 2 * a < b := by
  show a * 1000000 + a * 1000000 < b * 1000000 ↔ _
  omega

namespace Bitcoin.Client

open Rpc (Talk Reaction)

variable {c : Client} {node : Talk.Node} {address : String}

/-- An import ends as one of its attempts does. -/
theorem exists_ends_importAddress (hlimit : c.link.importing.limit = none)
    (hname : c.importing.name = importOperation) :
    ∃ reaction elapsed, Ends c reaction (c.importAddress node address).result elapsed := by
  have hends (n : Nat) := @ends_importOnce c node address n hlimit hname
  rw [result_importAddress]
  split
  · exact ⟨_, _, hends 0⟩
  · exact ⟨_, _, hends 1⟩

/-- A node that never answers an import has both attempts wait in full. -/
theorem elapsed_importAddress_of_stall (hlimit : c.link.importing.limit = none)
    (hname : c.importing.name = importOperation)
    (hstall : ∀ n, node n (c.importAsk address) = .stall) :
    (c.importAddress node address).elapsed = c.importing.limit + c.importing.limit := by
  have hattempt (n : Nat) : (c.importOnce node address n).result =
      .error (.timeout importOperation c.importing.limit) ∧
        (c.importOnce node address n).elapsed = c.importing.limit := by
    refine (ends_importOnce hlimit hname).eq_of_late fun after hafter => ?_
    rw [hstall] at hafter
    cases hafter
  obtain ⟨hresult, hfirst⟩ := hattempt 0
  have hfailed : (c.importOnce node address 0).result.isOk ≠ true := by
    rw [hresult]
    exact Bool.false_ne_true
  rw [importAddress_eq, if_neg hfailed, Converged.after, Converged.once, hfirst, (hattempt 1).2]

end Bitcoin.Client

namespace Http

open Json (Portable)

variable {request : Request} {asset address fresh : String}

/-- Whether a request is to import an address for an asset. -/
structure Request.Imports (r : Request) (asset address : String) : Prop where
  method : r.method = .post
  path : ∃ segment, Target.StandsFor segment asset ∧ r.path = "/nodes/" ++ segment ++ "/addrs/import"
  address : r.importAddress = .ok address

theorem Request.Imports.asksImport (h : request.Imports asset address) : request.AsksImport asset :=
  ⟨h.method, h.path⟩

/-- Whether a response tells how an import ended, which is with a success, a timeout or a failure. -/
def Response.ReportsImport (r : Response) : NodeResult OperationState → Prop
  | .ok _ => r.status = 200 ∧ r.read (decodeData Decoder.text) = .ok "success"
  | .error (.timeout operation after) =>
    r.ReportsFailure 504 201 (NodeError.timeout operation after).message
  | .error (.failed asset operation cause) =>
    r.ReportsFailure 400 201 (NodeError.failed asset operation cause).message
  | .error _ => False

/-- Whether a request was answered with how an import ended, as soon as it had. -/
def Served.Delivers (s : Served) (course : Converged) : Prop :=
  s.elapsed = course.elapsed ∧
    ∃ response, s.response = some response ∧ response.ReportsImport course.result

/-- Whether a request was given up at a limit. -/
def Served.CutAt (s : Served) (limit : Duration) : Prop :=
  s.elapsed = limit ∧ ∃ response, s.response = some response ∧ response.status = 408

theorem Served.CutAt.not_delivers {s : Served} {limit : Duration} {course : Converged}
    (h : s.CutAt limit) : ¬s.Delivers course := by
  obtain ⟨-, response, hresponse, hstatus⟩ := h
  rintro ⟨-, given, hgiven, hreports⟩
  obtain rfl : response = given := Option.some.inj (hresponse.symm.trans hgiven)
  unfold Response.ReportsImport at hreports
  split at hreports
  · rw [hreports.1] at hstatus
    cases hstatus
  · rw [hreports.1] at hstatus
    cases hstatus
  · rw [hreports.1] at hstatus
    cases hstatus
  · exact hreports

/-- The response to an import that has ended. -/
def Response.ofImport (result : NodeResult OperationState) : Response :=
  .ofResult .cannotImport (fun _ => .text "success") (result.map fun _ => ())

theorem Response.reportsImport_ofImport {c : Bitcoin.Client} {reaction : Rpc.Reaction}
    {result : NodeResult OperationState} {elapsed : Duration} (h : c.Ends reaction result elapsed) :
    (ofImport result).ReportsImport result := by
  have hsuccess (state : OperationState) : (ofImport (.ok state)).ReportsImport (.ok state) :=
    tellsImporter_ofImporter (.ok ())
  cases h with
  | completed _ _ => exact hsuccess _
  | busy _ _ => exact hsuccess _
  | failed _ _ _ => exact Response.reportsFailure_ofError
  | broken _ _ => exact Response.reportsFailure_ofError
  | late _ => exact Response.reportsFailure_ofError

namespace Server

variable {s : Server} {c : Bitcoin.Client} {node : Rpc.Talk.Node}

/-- The work for an import is the course that it takes at the client. -/
theorem job_of_imports (h : request.Imports asset address)
    (hfind : s.registry.find? asset = some ((Adapter.bitcoin c).client node)) :
    (s.work request).job = ⟨some (c.importAddress node address).elapsed,
      .returned (.ofImport (c.importAddress node address).result)⟩ := by
  rw [work_of_found h.asksImport hfind, Work.importing, h.address]
  rfl

/-- A request for an import is answered with how the import ends if that is before the limit of
    requests, and it is given up at that limit if it is not. -/
theorem serve_of_imports (fresh : String) (h : request.Imports asset address)
    (hfind : s.registry.find? asset = some ((Adapter.bitcoin c).client node))
    (hlimit : c.link.importing.limit = none) (hname : c.importing.name = importOperation) :
    ((c.importAddress node address).elapsed < s.limit →
        (s.serve fresh request).Delivers (c.importAddress node address)) ∧
      (s.limit ≤ (c.importAddress node address).elapsed →
        (s.serve fresh request).CutAt s.limit) := by
  have hjob := job_of_imports h hfind
  constructor
  · intro hin
    have hends : (s.work request).job.endsWithin s.limit =
        some (c.importAddress node address).elapsed := by
      rw [hjob]
      simp [Job.endsWithin, Option.filter, hin]
    have htrim : trim request (.ofImport (c.importAddress node address).result) =
        .ofImport (c.importAddress node address).result :=
      trim_of_asksImport h.asksImport _
    obtain ⟨-, hresponse⟩ := serve_of_returned hends (by rw [hjob])
    obtain ⟨reaction, elapsed, hcourse⟩ : ∃ reaction elapsed,
        c.Ends reaction (c.importAddress node address).result elapsed :=
      Bitcoin.Client.exists_ends_importAddress hlimit hname
    refine ⟨by rw [elapsed_serve, hends]; rfl, _, hresponse, ?_⟩
    rw [htrim]
    exact Response.reportsImport_ofImport hcourse
  · intro hlate
    have hends : (s.work request).job.endsWithin s.limit = none := by
      have hnot : ¬ (c.importAddress node address).elapsed < s.limit := Nat.not_lt.2 hlate
      rw [hjob]
      simp [Job.endsWithin, Option.filter, hnot]
    exact ⟨by rw [elapsed_serve, hends]; rfl, _, response_of_late hends, rfl⟩

end Server

end Http

namespace Config

open Rpc (Talk)
open Http (Request Server)

variable {env : Environment} {c : Config} {r : Registry Adapter} {node : NodeConfig}
  {request : Request} {asset address : String}

/-- The server of a configuration, when nodes react in a certain way. -/
def server (c : Config) (r : Registry Adapter) (nodes : Adapter → Talk.Node) : Server :=
  ⟨r.map fun a => a.client (nodes a), .ofSeconds c.timeouts.request.toNat⟩

/-- An output-based node of a valid configuration is found by its id, in any case, and nothing but
    the limit on imports ends an attempt at an import. -/
theorem exists_find?_bitcoin (hvalid : c.isValid env = true) (hr : c.registry env = .ok r)
    (hnode : node ∈ c.nodes) (hkind : node.kind = .bitcoin)
    (hasset : Text.equalsIgnoringCase asset node.asset = true) :
    ∃ client, r.find? asset = some (.bitcoin client) ∧ client.asset = node.asset ∧
      client.importing = Bootstrap.importOperationOf c.timeouts ∧
      client.link.importing.limit = none := by
  obtain ⟨a, ha, hserves⟩ := exists_find?_asset hvalid hr hnode
  have hfind : r.find? asset = some a := by
    rw [← ha, Registry.find?, Registry.find?, Text.lowercase_eq_of_equalsIgnoringCase hasset]
  obtain ⟨built, last, -, rfl, htracks⟩ := tracks_of_registry hr
  rw [Registry.find?, Registry.find?_ofHistory] at ha
  obtain ⟨e, he, -, rfl⟩ := Registry.mem_of_latest ha
  obtain ⟨p, hp, rfl⟩ := List.mem_map.1 he
  obtain ⟨client, hclient⟩ := Adapter.exists_wallet (hserves.kind.trans hkind)
  have hname : Adapter.asset (.bitcoin client) = node.asset := hclient ▸ hserves.asset
  exact ⟨client, hclient ▸ hfind, hname, hserves.importing client hclient,
    (htracks.reaches p hp).importing client hclient⟩

theorem find?_server (nodes : Adapter → Talk.Node) {a : Adapter} (h : r.find? asset = some a) :
    (c.server r nodes).registry.find? asset = some (a.client (nodes a)) := by
  rw [server, Registry.find?_map, h]
  rfl

/-- A request for an import at an output-based node of a valid configuration is answered with how
    the import ends if that is before the limit of requests, and it is given up at that limit if it
    is not. So the outcome is told whatever the node does if and only if two attempts that are
    waited for in full fit into the time of a request. -/
theorem importing_of_isValid (hvalid : c.isValid env = true) (hr : c.registry env = .ok r)
    (hnode : node ∈ c.nodes) (hkind : node.kind = .bitcoin)
    (hasset : Text.equalsIgnoringCase asset node.asset = true)
    (hrequest : request.Imports asset address) :
    ∃ client, r.find? asset = some (.bitcoin client) ∧ client.asset = node.asset ∧
      client.importing = ⟨importOperation, .ofSeconds c.timeouts.importing.toNat⟩ ∧
      (∀ nodes fresh,
        let course := client.importAddress (nodes (.bitcoin client)) address
        let served := (c.server r nodes).serve fresh request
        (course.elapsed < .ofSeconds c.timeouts.request.toNat → served.Delivers course) ∧
        (.ofSeconds c.timeouts.request.toNat ≤ course.elapsed →
          served.CutAt (.ofSeconds c.timeouts.request.toNat))) ∧
      ((∀ nodes fresh, ((c.server r nodes).serve fresh request).Delivers
          (client.importAddress (nodes (.bitcoin client)) address)) ↔
        2 * c.timeouts.importing.toNat < c.timeouts.request.toNat) := by
  obtain ⟨client, hfind, hname, himporting, hlimit⟩ :=
    exists_find?_bitcoin hvalid hr hnode hkind hasset
  have hoperation : client.importing.name = importOperation := by rw [himporting]; rfl
  have hserve (nodes : Adapter → Talk.Node) (fresh : String) :=
    Server.serve_of_imports fresh hrequest (find?_server (c := c) nodes hfind) hlimit hoperation
  refine ⟨client, hfind, hname, himporting, hserve, ?_⟩
  have htime : client.importing.limit = .ofSeconds c.timeouts.importing.toNat := by
    rw [himporting]
    rfl
  rw [← Duration.ofSeconds_add_self_lt_iff, ← htime]
  constructor
  · intro hall
    by_contra hlong
    have hstalled : (client.importAddress (fun _ _ => .stall) address).elapsed =
        client.importing.limit + client.importing.limit :=
      Bitcoin.Client.elapsed_importAddress_of_stall hlimit hoperation fun _ => rfl
    have hcut := (hserve (fun _ _ _ => .stall) "").2 (by rw [hstalled]; exact Nat.not_lt.1 hlong)
    exact hcut.not_delivers (hall (fun _ _ _ => .stall) "")
  · intro hshort nodes fresh
    have helapsed : (client.importAddress (nodes (.bitcoin client)) address).elapsed ≤
        client.importing.limit + client.importing.limit :=
      Bitcoin.Client.elapsed_importAddress_le fun n =>
        (Bitcoin.Client.ends_importOnce hlimit hoperation).elapsed_le
    exact (hserve nodes fresh).1 (Nat.lt_of_le_of_lt helapsed hshort)

/-- A request to import the address `x` at the node of `ofEachKind` that can. -/
def importRequest : Request where
  method := .post
  path := "/nodes/btc/addrs/import"
  headers := [("content-type", "application/json")]
  body := Text.Utf8.encode "\x7b\"addr\":\"x\"\x7d"

theorem imports_importRequest : importRequest.Imports "btc" "x" where
  method := rfl
  path := ⟨"btc", ⟨by decide, by decide +kernel⟩, by decide⟩
  address := by decide +kernel

/-- Without settings of its own a configuration has time for both attempts. -/
theorem importing_of_isValid_ofEachKind :
    ∃ r client, ofEachKind.registry (fun _ => none) = .ok r ∧
      r.find? "btc" = some (.bitcoin client) ∧
      ∀ nodes fresh, ((ofEachKind.server r nodes).serve fresh importRequest).Delivers
        (client.importAddress (nodes (.bitcoin client)) "x") := by
  obtain ⟨r, hr⟩ := exists_registry_iff.2 fun _ hnode => usable_of_isValid isValid_ofEachKind hnode
  have hnode : { asset := "BTC", kind := .bitcoin, user := some "u" } ∈ ofEachKind.nodes :=
    List.mem_cons_self
  have hasset : Text.equalsIgnoringCase "btc" "BTC" = true := by decide +kernel
  obtain ⟨client, hfind, -, -, -, hall⟩ :=
    importing_of_isValid isValid_ofEachKind hr hnode rfl hasset imports_importRequest
  exact ⟨r, client, hr, hfind, hall.2 (by decide)⟩

/-- An output-based node with no settings of its own. -/
def plainNode : NodeConfig where
  asset := "BTC"
  kind := .bitcoin

/-- A configuration whose requests are given up before the first attempt at an import is. -/
def impatient : Config where
  timeouts := { request := 1 }
  nodes := [plainNode]

theorem isValid_impatient : impatient.isValid (fun _ => none) = true := by decide +kernel

/-- A node that never answers has the request given up after a second, though each of two attempts
    should have had three. -/
theorem importing_of_impatient :
    impatient.isValid (fun _ => none) = true ∧
      ∃ r client, impatient.registry (fun _ => none) = .ok r ∧
        r.find? "btc" = some (.bitcoin client) ∧ client.importing.limit = .ofSeconds 3 ∧
        ((impatient.server r fun _ _ _ => .stall).serve "1" importRequest).CutAt (.ofSeconds 1) ∧
        ¬((impatient.server r fun _ _ _ => .stall).serve "1" importRequest).Delivers
          (client.importAddress (fun _ _ => .stall) "x") := by
  obtain ⟨r, hr⟩ := exists_registry_iff.2 fun _ hnode => usable_of_isValid isValid_impatient hnode
  have hnode : plainNode ∈ impatient.nodes := List.mem_singleton.2 rfl
  have hasset : Text.equalsIgnoringCase "btc" plainNode.asset = true := by decide +kernel
  obtain ⟨client, hfind, -, himporting, hlimit⟩ :=
    exists_find?_bitcoin isValid_impatient hr hnode rfl hasset
  have hoperation : client.importing.name = importOperation := by rw [himporting]; rfl
  have hthree : client.importing.limit = .ofSeconds 3 := by rw [himporting]; decide
  have hstalled : (client.importAddress (fun _ _ => .stall) "x").elapsed = .ofSeconds 6 := by
    rw [Bitcoin.Client.elapsed_importAddress_of_stall hlimit hoperation fun _ => rfl, hthree]
    decide
  have hlate : Duration.ofSeconds 1 ≤ (client.importAddress (fun _ _ => .stall) "x").elapsed := by
    rw [hstalled]
    decide
  have hcut := (Server.serve_of_imports "1" imports_importRequest
    (find?_server (c := impatient) (fun _ _ _ => .stall) hfind) hlimit hoperation).2 hlate
  exact ⟨isValid_impatient, r, client, hr, hfind, hthree, hcut, hcut.not_delivers⟩

end Config

end AssetOracle
