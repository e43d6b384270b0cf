import AssetOracle.Http.Response
import AssetOracle.Http.Target
import AssetOracle.Registry.Listing

/-!
# Work

What is done for a request: a job that ends in a response, the calls of clients that it makes, and
what it counts on the way. Each target has its work; none depends on the kind of a node.
-/

namespace AssetOracle.Http

/-- What is done for a request. -/
structure Work where
  job : Job Response
  calls : List Client.Call := []
  metrics : List (Duration × Metric) := []

namespace Work

/-- Answers at once. -/
def answer (response : Response) : Work := { job := .instant response }

/-- Refuses at once. -/
def refuse (e : ApiError) : Work := answer (.ofError e)

/-- Passes on what a client answers to one call. -/
def forward {α : Type} (code : ErrorCode) (encode : α → Json) (call : Client.Call)
    (job : Job (NodeResult α)) : Work where
  job := job.map (Response.ofResult code encode)
  calls := [call]

/-- Work with the client of an asset, if it is registered. -/
def withClient (registry : Registry Client) (asset : String) (work : Client → Work) : Work :=
  match registry.find? asset with
  | some client => work client
  | none => refuse (.assetNotFound asset)

/-- Lists the nodes. -/
def list (registry : Registry Client) (request : Request) : Work :=
  match request.nodesQuery with
  | .error message => answer (.text 400 message)
  | .ok query =>
    let listing := registry.list query.enrich
    { job := ⟨listing.duration, .returned (.ofData (listingData listing.nodes))⟩
      calls := listing.calls
      metrics :=
        match listing.duration with
        | some duration => listing.metrics.map (duration, ·)
        | none => [] }

/-- Asks a client for the state of its chain. -/
def info (client : Client) : Work :=
  forward .info ChainState.encode (.info client.asset) client.info

/-- Asks a client for the balance of an address. -/
def balance (address : String) (client : Client) : Work :=
  forward .balance Balance.encode (.balance client.asset address) (client.balance address)

/-- Asks a client for a transaction. -/
def transaction (id : String) (client : Client) : Work :=
  forward .transaction transactionData (.transaction client.asset id) (client.transaction id)

/-- Has a client import the address in a request. -/
def importing (request : Request) (client : Client) : Work :=
  match request.importAddress with
  | .error message => refuse (.invalid message)
  | .ok address =>
    let course := client.importAddress address
    { job := course.job.map (Response.ofResult .cannotImport fun _ => .text "success")
      calls := if client.importer.isSome then [.importing client.asset address] else []
      metrics := course.metrics }

/-- The work for a target whose parameters have no escapes left. -/
def ofTarget (registry : Registry Client) (request : Request) : Target → Work
  | .ping => answer (.json 200 (.ofMembers [("message", .text "pong")]))
  | .nodes => list registry request
  | .info asset => withClient registry asset info
  | .balance asset address => withClient registry asset (balance address)
  | .importing asset => withClient registry asset (importing request)
  | .transaction asset id => withClient registry asset (transaction id)

/-- The work for a request to a target. -/
def ofRequest (registry : Registry Client) (request : Request) (target : Target) : Work :=
  if target.accepts request.method = false then
    answer { status := 405, allow := some target.allow }
  else
    match target.decode with
    | .error message => answer (.text 400 message)
    | .ok target => ofTarget registry request target

end Work

end AssetOracle.Http
