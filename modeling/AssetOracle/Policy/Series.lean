import AssetOracle.Policy.Converge

/-!
# A series of attempts

Attempts as they are made one after another. The number of an attempt is kept in a word of 32 bits,
and while it is below a limit a failure makes way for the next attempt.
-/

namespace AssetOracle

/-- A series of attempts in progress: the number of the attempt that is next, or was the last one,
    the moment, the attempts that were made, each with the moment at which it started, and the
    result once the series is over. -/
structure Series where
  number : UInt32 := 1
  now : Duration := .zero
  made : List (Duration × Settled) := []
  result : Option (NodeResult OperationState) := none

namespace Series

/-- The series after an attempt has run its time. -/
def record (c : Series) (s : Settled) : Series :=
  { c with now := c.now + s.elapsed, made := c.made ++ [(c.now, s)] }

/-- The series before a further attempt. -/
def next (c : Series) : Series := { c with number := c.number + 1 }

/-- The series that is over. -/
def finish (result : NodeResult OperationState) (c : Series) : Series :=
  { c with result := some result }

/-- The series after the next attempt has settled, if the series is not over. -/
def step (most : UInt32) (c : Series) (s : Settled) : Option Series :=
  match c.result with
  | some _ => none
  | none =>
    match s.result with
    | .ok state => some ((c.record s).finish (.ok state))
    | .error e =>
      if c.number < most then some (c.record s).next else some ((c.record s).finish (.error e))

/-- The series after attempts that settle one after another, if it is not over before. -/
def run (most : UInt32) (c : Series) (settled : List Settled) : Option Series :=
  settled.foldlM (step most) c

end Series

end AssetOracle
