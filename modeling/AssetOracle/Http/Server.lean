import AssetOracle.Http.Work

/-!
# The server

How a request is served: the work for its target is done up to a limit, and what ends no earlier
than the limit is answered in its place. Requests for a target are counted when their work ends in
time; a request for no target, and one that runs into the limit, is not counted.
-/

namespace AssetOracle.Http

/-- A server: the clients it asks, and how long it works for one request. -/
structure Server where
  registry : Registry Client
  limit : Duration

/-- A request that was served: the response, unless the connection broke, the id it is known by,
    the time it took, the calls of clients that were made for it, and what was counted. -/
structure Served where
  response : Option Response
  id : String
  elapsed : Duration
  calls : List Client.Call
  metrics : List Metric

namespace Server

/-- The response to a request that took too long. -/
def tooLong : Response := .bare 408

/-- The work for a request. -/
def work (s : Server) (request : Request) : Work :=
  match Target.ofPath? request.path with
  | some target => .ofRequest s.registry request target
  | none => .answer (.bare 404)

/-- The count of a request that was answered, if its path names a target. -/
def count (request : Request) (response : Response) : List Metric :=
  match Target.ofPath? request.path with
  | some target => [.request target.template response.status]
  | none => []

/-- The response as it is sent: without content if only the head was asked for. -/
def trim (request : Request) (response : Response) : Response :=
  if request.method = .head then response.withoutContent else response

/-- What work counts before a limit. -/
def countedBefore (limit : Duration) (metrics : List (Duration × Metric)) : List Metric :=
  (metrics.filter (·.1 < limit)).map (·.2)

/-- Does work for a request up to a limit. -/
def finish (limit : Duration) (request : Request) (id : String) (w : Work) : Served :=
  match w.job.endsWithin limit with
  | none => ⟨some tooLong, id, limit, w.calls, countedBefore limit w.metrics⟩
  | some elapsed =>
    let metrics := countedBefore limit w.metrics
    match w.job.ending with
    | .aborted => ⟨none, id, elapsed, w.calls, metrics⟩
    | .returned response =>
      ⟨some (trim request response), id, elapsed, w.calls, metrics ++ count request response⟩

/-- Serves a request; `fresh` is its id if it brings none. Without any time no work is begun. -/
def serve (s : Server) (fresh : String) (request : Request) : Served :=
  let id := request.id?.getD fresh
  if s.limit = .zero then ⟨some tooLong, id, .zero, [], []⟩
  else finish s.limit request id (s.work request)

end Server

end AssetOracle.Http
