import AssetOracle.Duration
import AssetOracle.Rpc.Failure

/-!
# Node errors

What can go wrong in an operation on a node, and its wording. A failure names the asset and the
operation that it happened in and keeps its cause.
-/

namespace AssetOracle

/-- What the failure of an operation comes from. -/
inductive Cause where
  | rpc (failure : Rpc.Failure)
  | evm (failure : Evm.Failure)
  | shape (error : DecodeError)
  | text (message : String)
  | aborted

/-- The words for a cause. -/
def Cause.message : Cause → String
  | .rpc failure => failure.message
  | .evm failure => failure.message
  | .shape error => error.message .jsonValue
  | .text message => message
  | .aborted => "the task was aborted"

/-- Why an operation on a node has no answer. -/
inductive NodeError where
  | notFound (asset : String)
  | failed (asset operation : String) (cause : Cause)
  | unsupported (asset capability : String)
  | timeout (operation : String) (after : Duration)
  | invalidInput (message : String)

namespace NodeError

/-- The words for an error. -/
def message : NodeError → String
  | .notFound asset =>
    "could not find client named: " ++ asset ++ ", have you registered the client"
  | .failed asset operation cause => asset ++ " " ++ operation ++ " failed: " ++ cause.message
  | .unsupported asset capability => "client " ++ asset ++ " does not support " ++ capability
  | .timeout operation after =>
    operation ++ " timed out after " ++ toString after.millis ++ "ms"
  | .invalidInput text => "invalid input: " ++ text

/-- Whether a limit ran out. -/
def isTimeout : NodeError → Bool
  | .timeout .. => true
  | _ => false

/-- What the error comes from, if it has a cause of its own. -/
def cause? : NodeError → Option Cause
  | .failed _ _ cause => some cause
  | _ => none

end NodeError

/-- The look-up of a chain's state, by the name that errors give it. -/
def infoOperation : String := "get_info"

/-- The look-up of a balance. -/
def balanceOperation : String := "get_balance"

/-- The look-up of a transaction. -/
def transactionOperation : String := "get_transaction_by_hash"

/-- The import of an address. -/
def importOperation : String := "import_address"

/-- An operation's value or error. -/
abbrev NodeResult (α : Type) := Except NodeError α

end AssetOracle
