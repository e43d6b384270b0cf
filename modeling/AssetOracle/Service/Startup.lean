import AssetOracle.Log.Event
import AssetOracle.Net.Listen
import AssetOracle.Registry.Bootstrap

/-!
# Startup

From a configuration to a service that listens, step by step: the metrics, the registry, the
listener. The first fault in the registry or the listener is fatal; one in the metrics is only
reported.
-/

namespace AssetOracle.Service

open Log (Event Level Source)

/-- Why a service does not start. -/
inductive StartupError where
  | registry (error : NodeError)
  | bind (address : String) (fault : Net.ListenFault)

/-- The words for a service that does not start. -/
def StartupError.message : StartupError → String
  | .registry e => "failed to build client registry: " ++ e.message
  | .bind address fault => "failed to bind " ++ address ++ ": " ++ fault.message

/-- What startup reports, and the registry of the service that listens. -/
structure Startup where
  log : List Event
  result : Except StartupError (Registry Adapter)

/-- What is reported of the metrics, and where they are to be had. -/
def startMetrics (m : Net.Machine) (o : Observability) : List Event × List Net.SocketAddress :=
  if o.metricsEnabled = false then ([], [])
  else
    match Net.SocketAddress.parse? o.metricsAddress with
    | none => ([⟨.error, .startup, "Failed to parse metrics address"⟩], [])
    | some address =>
      match m.listenAt [] address with
      | .ok address => ([⟨.info, .metrics, "Metrics exporter listening"⟩], [address])
      | .error _ => ([⟨.error, .metrics, "Failed to install metrics exporter"⟩], [])

/-- What is reported while constructors are collected. -/
def configureLog (env : Environment) (t : Timeouts) (s : Sharing) : List NodeConfig → List Event
  | [] => []
  | node :: rest =>
    match Bootstrap.constructorOf env t s node with
    | .error _ => []
    | .ok (_, s) => ⟨.info, .bootstrap, "Configured node"⟩ :: configureLog env t s rest

/-- What is reported while constructors run. -/
def constructLog {α : Type} (r : Registry α) : List (String × NodeResult α) → List Event
  | [] => [⟨.info, .bootstrap, "Client registry initialized"⟩]
  | (_, .error _) :: _ => [⟨.error, .bootstrap, "Failed to create client"⟩]
  | (id, .ok client) :: rest =>
    let message :=
      if (r.find? id).isSome then "Replaced registered client" else "Registered client"
    ⟨.debug, .registry, message⟩ :: constructLog (r.register id client) rest

/-- What is reported while the registry of a configuration is built. -/
def registryLog (env : Environment) (c : Config) : List Event :=
  configureLog env c.timeouts {} c.nodes ++
    match Bootstrap.constructors env c.timeouts {} c.nodes with
    | .ok entries => constructLog .empty entries
    | .error _ => []

/-- Starts the service of a configuration on a machine. -/
def start (m : Net.Machine) (env : Environment) (c : Config) : Startup :=
  let (metricsLog, taken) := startMetrics m c.observability
  let log := metricsLog ++ registryLog env c
  match c.registry env with
  | .error e => ⟨log, .error (.registry e)⟩
  | .ok registry =>
    let log := log ++ [⟨.info, .startup, "Registry ready"⟩]
    match m.listen taken c.listener.address with
    | .error fault => ⟨log, .error (.bind c.listener.address fault)⟩
    | .ok _ => ⟨log ++ [⟨.info, .server, "HTTP server starting"⟩], .ok registry⟩

end AssetOracle.Service
