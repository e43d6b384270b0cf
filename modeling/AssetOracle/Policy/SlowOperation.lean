import AssetOracle.Metrics
import AssetOracle.Node.Error
import AssetOracle.Policy.Job

/-!
# Slow operations

Waiting for a call that may take very long. The call runs on its own; the caller waits for it up
to a limit and then gives up, while the call goes on to its end. What the call answers in time is
passed on, and every wait that ends is counted once.
-/

namespace AssetOracle

/-- How far an operation has come. -/
inductive OperationState where
  | notStarted
  | inFlight
  | completed
  | alreadyInProgress
deriving DecidableEq, Repr

namespace OperationState

/-- Whether nothing is left to be asked for. -/
def isSuccess : OperationState → Bool
  | .completed => true
  | .alreadyInProgress => true
  | _ => false

/-- The name under which a state is counted. -/
def label : OperationState → String
  | .notStarted => "not_started"
  | .inFlight => "in_flight"
  | .completed => "completed"
  | .alreadyInProgress => "already_in_progress"

end OperationState

/-- An operation that is waited for up to a limit. -/
structure SlowOperation where
  name : String
  limit : Duration
deriving DecidableEq, Repr

/-- How waiting ended: with what, after what time, whether the call was over by then, and when the
    call itself is through, unless it never ends or is aborted. -/
structure Settled where
  result : NodeResult OperationState
  elapsed : Duration
  inTime : Bool
  effect : Option Duration

namespace SlowOperation

/-- What the caller gets of a call that ended in time. -/
def passOn (op : SlowOperation) (asset : String) :
    Ending (NodeResult OperationState) → NodeResult OperationState
  | .returned result => result
  | .aborted => .error (.failed asset op.name .aborted)

/-- When a call is through with all that it does. -/
def effectOf {α : Type} (job : Job α) : Option Duration :=
  match job.ending with
  | .returned _ => job.duration
  | .aborted => none

/-- Starts a call and waits for it. -/
def run (op : SlowOperation) (asset : String) (job : Job (NodeResult OperationState)) : Settled :=
  match job.endsWithin op.limit with
  | some duration => ⟨op.passOn asset job.ending, duration, true, effectOf job⟩
  | none => ⟨.error (.timeout op.name op.limit), op.limit, false, effectOf job⟩

/-- The outcome under which a wait is counted. -/
def outcomeLabel : NodeResult OperationState → String
  | .ok state => state.label
  | .error (.timeout ..) => "timeout"
  | .error _ => "error"

/-- What is counted of a wait. -/
def metric (op : SlowOperation) (s : Settled) : Metric :=
  .slowOperation op.name (outcomeLabel s.result)

end SlowOperation

end AssetOracle
