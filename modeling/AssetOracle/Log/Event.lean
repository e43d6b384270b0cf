/-!
# Log events

What the service reports while it runs: an event has a level, the part of the service that it
comes from, and a message.
-/

namespace AssetOracle.Log

/-- How important an event is. -/
inductive Level where
  | error
  | warn
  | info
  | debug
  | trace
deriving DecidableEq, Repr

namespace Level

/-- The place of a level, from the most to the least important. -/
def rank : Level → Nat
  | .error => 1
  | .warn => 2
  | .info => 3
  | .debug => 4
  | .trace => 5

/-- The name of a level. -/
def name : Level → String
  | .error => "ERROR"
  | .warn => "WARN"
  | .info => "INFO"
  | .debug => "DEBUG"
  | .trace => "TRACE"

/-- All levels. -/
def all : List Level := [.error, .warn, .info, .debug, .trace]

end Level

/-- The parts of the service that report. -/
inductive Source where
  | program
  | logging
  | metrics
  | bootstrap
  | registry
  | startup
  | server
  | signals
deriving DecidableEq, Repr

/-- The name by which filters know a part of the service. -/
def Source.target : Source → String
  | .program => "coins_oracle"
  | .logging => "coins_oracle::observability::logging"
  | .metrics => "coins_oracle::observability::metrics"
  | .bootstrap => "coins_oracle::registry::bootstrap"
  | .registry => "coins_oracle::registry::resolver"
  | .startup => "coins_oracle::lifecycle::startup"
  | .server => "coins_oracle::http::server"
  | .signals => "coins_oracle::lifecycle::signals"

/-- Something that is reported. -/
structure Event where
  level : Level
  source : Source
  message : String
deriving DecidableEq, Repr

end AssetOracle.Log
