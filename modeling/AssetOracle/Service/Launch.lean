import AssetOracle.CommandLine.Options
import AssetOracle.Config.Load
import AssetOracle.Log.Filter
import AssetOracle.Service.Startup

/-!
# Launching the service

From the words of a command line to a service that listens, and from a signal to its end. Nothing
is reported before the configuration is read and the filter of the log is known; from then on
every event that the filter keeps is.
-/

namespace AssetOracle.Service

open CommandLine (Grammar Stop)
open Log (Event Filter)

/-- What the command line of the service may hold. -/
def grammar : Grammar where
  flags := [{ name := "config", short := some 'c', mayBeEmpty := false },
    { name := "bind", short := some 'b' }]

/-- The settings that a command line chooses: the file with the configuration, and an address that
    takes the place of the configured one. -/
structure Settings where
  file : Option String := none
  bind : Option String := none
deriving DecidableEq, Repr

/-- Reads the words of a command line. -/
def Settings.read (words : List String) : Except Stop Settings := do
  let r ← grammar.read words
  let r ← r.settle
  return { file := r.value? "config", bind := r.value? "bind" }

/-- What the service finds around it: the machine, the environment, and files. -/
structure Surroundings where
  machine : Net.Machine
  environment : Environment
  contentOf : String → Except FileFault (List UInt8)

/-- The configuration that settings choose. -/
def Settings.configuration (s : Settings) (around : Surroundings) :
    Except ConfigError Config := do
  let c ←
    match s.file with
    | some path => Config.load around.environment (around.contentOf path)
    | none => pure {}
  return match s.bind with
    | some address => { c with listener := { c.listener with address } }
    | none => c

/-- The variable whose filter takes the place of the configured level. -/
def filterVariable : String := "RUST_LOG"

/-- A service that listens: its configuration, its clients, the filter of its log, and what was
    reported so far. -/
structure Running where
  config : Config
  registry : Registry Adapter
  filter : Filter
  log : List Event

/-- How a launch ends: the command line is not carried out, the service does not start, or it
    listens. -/
inductive Launch where
  | stopped (stop : Stop)
  | failed (json : Bool) (log : List Event) (reason : String)
  | serving (running : Running)

/-- What is reported before startup. -/
def openingLog : List Event :=
  [⟨.debug, .logging, "Logging initialized"⟩, ⟨.info, .program, "coins-oracle starting"⟩]

/-- Starts the service of a configuration. -/
def launchConfig (around : Surroundings) (c : Config) : Launch :=
  let json := c.observability.jsonLogs
  match Filter.choose (around.environment filterVariable) c.observability.logLevel with
  | none => .failed json [] "invalid filter directive"
  | some filter =>
    let startup := start around.machine around.environment c
    let log := (openingLog ++ startup.log).filter filter.keeps
    match startup.result with
    | .error e => .failed json log e.message
    | .ok registry => .serving ⟨c, registry, filter, log⟩

/-- Launches the service with the words of a command line. -/
def launch (around : Surroundings) (words : List String) : Launch :=
  match Settings.read words with
  | .error stop => .stopped stop
  | .ok settings =>
    match settings.configuration around with
    | .error e => .failed false [] e.message
    | .ok c => launchConfig around c

/-- What is reported from a signal to the end. -/
def closingLog : List Event :=
  [⟨.info, .signals, "Shutdown signal received"⟩, ⟨.debug, .signals, "Shutdown broadcast"⟩,
    ⟨.info, .server, "HTTP server draining"⟩, ⟨.info, .server, "HTTP server stopped"⟩,
    ⟨.info, .program, "Shutdown complete"⟩]

/-- What is kept of that. -/
def Running.closing (r : Running) : List Event := closingLog.filter r.filter.keeps

/-- The status that a launch without a signal ends with. -/
def Launch.exit : Launch → Nat
  | .stopped stop => stop.exit
  | .failed .. => 1
  | .serving _ => 0

end AssetOracle.Service
