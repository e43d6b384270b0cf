import AssetOracle.Policy.SlowOperation

/-!
# Attempts

Trying again until an attempt succeeds or none is left. Attempts follow one another, there is
always at least one, and the last error is the one that is reported.
-/

namespace AssetOracle

/-- How a series of attempts ended: the result, how many attempts were made, how each of them
    settled, in order, and the time they took together. -/
structure Converged where
  result : NodeResult OperationState
  attempts : List Settled
  elapsed : Duration

namespace Converged

/-- How many attempts were made. -/
def made (c : Converged) : Nat := c.attempts.length

/-- The moments at which attempts start that follow one another from a moment on. -/
def startsFrom (now : Duration) : List Settled → List Duration
  | [] => []
  | s :: rest => now :: startsFrom (now + s.elapsed) rest

/-- The moments at which the attempts of a series start, counted from its beginning. -/
def starts (c : Converged) : List Duration := startsFrom .zero c.attempts

/-- The series of one attempt. -/
def once (s : Settled) : Converged := ⟨s.result, [s], s.elapsed⟩

/-- The series that an attempt begins. -/
def after (s : Settled) (c : Converged) : Converged :=
  ⟨c.result, s :: c.attempts, s.elapsed + c.elapsed⟩

end Converged

/-- Attempt `n` and, if it fails, up to `spare` further ones. -/
def attemptFrom (attempt : Nat → Settled) (n : Nat) : (spare : Nat) → Converged
  | 0 => .once (attempt n)
  | spare + 1 =>
    match (attempt n).result with
    | .ok _ => .once (attempt n)
    | .error _ => .after (attempt n) (attemptFrom attempt (n + 1) spare)

/-- Makes up to `attempts` attempts, and one at least. -/
def converge (attempts : Nat) (attempt : Nat → Settled) : Converged :=
  attemptFrom attempt 0 (attempts - 1)

/-- How many attempts an address import is given. -/
def importAttempts : Nat := 2

end AssetOracle
