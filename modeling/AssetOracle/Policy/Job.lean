import AssetOracle.Duration

/-!
# Jobs

Work that takes time: how long it takes, if it ends at all, and how it ends. A job that is aborted
ends without a value.
-/

namespace AssetOracle

/-- How work ends. -/
inductive Ending (α : Type) where
  | returned (value : α)
  | aborted
deriving DecidableEq, Repr

/-- Work that takes time; without a duration it never ends. -/
structure Job (α : Type) where
  duration : Option Duration
  ending : Ending α

namespace Job

variable {α β : Type}

/-- Work that is done at once. -/
def instant (value : α) : Job α := ⟨some .zero, .returned value⟩

/-- Work whose value is used for another one. -/
def map (f : α → β) (job : Job α) : Job β where
  duration := job.duration
  ending := match job.ending with
    | .returned value => .returned (f value)
    | .aborted => .aborted

/-- Whether work that starts now is over before a limit runs out. What ends at the very moment of
    the limit comes too late. -/
def endsWithin (limit : Duration) (job : Job α) : Option Duration :=
  job.duration.filter (· < limit)

end Job

end AssetOracle
