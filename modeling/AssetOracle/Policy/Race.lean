import AssetOracle.Policy.SlowOperation

/-!
# The race against a limit

A slow operation as it takes its course. A call does things at times of its own and then ends, and a
caller waits for the end until the limit runs out or the caller goes away. Time does not pass a
moment at which something is due. The call does not ask for the caller: what it has to do it does
while there is time, and it ends, whether or not anybody waits for it.
-/

namespace AssetOracle

namespace Race

/-- A call as it takes its course: how it ends and when, if it ever does, and what it does before
    that, each thing at its own time. Times are counted from the start of the call. -/
structure Course (ε : Type) where
  job : Job (NodeResult OperationState)
  deeds : List (Duration × ε)
  ordered : deeds.Pairwise fun a b => a.1 ≤ b.1
  beforeEnd : ∀ duration, job.duration = some duration → ∀ deed ∈ deeds, deed.1 ≤ duration

/-- What may happen while a caller waits for a call: the call does what it has to do next, the call
    ends, the limit runs out, the caller goes away. -/
inductive Event where
  | deed
  | ended
  | limit
  | left
deriving DecidableEq

/-- The side of the caller. -/
inductive Caller where
  | waiting
  | answered (result : NodeResult OperationState) (time : Duration)
  | gone

/-- Whether the caller still waits. -/
def Caller.isWaiting : Caller → Bool
  | .waiting => true
  | _ => false

end Race

/-- A wait in progress: the moment, what the call has still to do and what it has done, each with
    its time, whether the call is running, the side of the caller, and what was counted. -/
structure Race (ε : Type) where
  now : Duration := .zero
  todo : List (Duration × ε)
  done : List (Duration × ε) := []
  running : Bool := true
  caller : Race.Caller := .waiting
  counted : List Metric

namespace Race

variable {ε : Type}

/-- The start of a call and of the wait for it. -/
def start (course : Course ε) (counted : List Metric) : Race ε := { todo := course.deeds, counted }

section Steps

variable (op : SlowOperation) (asset : String) (course : Course ε)

/-- The moments at which something is due: what the call has still to do, its end, and the limit
    while the caller waits. -/
def dues (r : Race ε) : List Duration :=
  r.todo.map (·.1) ++ (if r.running then course.job.duration.toList else []) ++
    if r.caller.isWaiting then [op.limit] else []

/-- The wait after the caller has got an answer, if it still waits for one. -/
def answer (result : NodeResult OperationState) (r : Race ε) : Race ε :=
  match r.caller with
  | .waiting =>
    { r with
      caller := .answered result r.now
      counted := r.counted ++ [.slowOperation op.name (SlowOperation.outcomeLabel result)] }
  | _ => r

/-- The wait after an event that happens now, if the event can happen. -/
def happen (r : Race ε) : Event → Option (Race ε)
  | .deed =>
    match r.todo with
    | (time, what) :: todo =>
      if time = r.now then some { r with todo, done := r.done ++ [(r.now, what)] } else none
    | [] => none
  | .ended =>
    if r.running ∧ r.todo.isEmpty ∧ course.job.duration = some r.now then
      some (answer op (op.passOn asset course.job.ending) { r with running := false })
    else none
  | .limit =>
    if r.caller.isWaiting ∧ r.now = op.limit then
      some (answer op (.error (.timeout op.name op.limit)) r)
    else none
  | .left => if r.caller.isWaiting then some { r with caller := .gone } else none

/-- The wait after an event at a moment. Before it nothing else may be due. -/
def step (r : Race ε) (event : Duration × Event) : Option (Race ε) :=
  if r.now ≤ event.1 ∧ ∀ due ∈ r.dues op course, event.1 ≤ due then
    happen op asset course { r with now := event.1 } event.2
  else none

/-- The wait after a history of events, if it can happen. -/
def run (r : Race ε) (history : List (Duration × Event)) : Option (Race ε) :=
  history.foldlM (step op asset course) r

end Steps

variable {op : SlowOperation} {asset : String} {job : Job (NodeResult OperationState)}

theorem run_of_endsWithin {d : Duration} (h : job.duration = some d) (hlt : d < op.limit) :
    op.run asset job = ⟨op.passOn asset job.ending, d, true, SlowOperation.effectOf job⟩ := by
  simp [SlowOperation.run, Job.endsWithin, h, Option.filter, hlt]

theorem run_of_late (h : ∀ d, job.duration = some d → op.limit ≤ d) :
    op.run asset job =
      ⟨.error (.timeout op.name op.limit), op.limit, false, SlowOperation.effectOf job⟩ := by
  cases hd : job.duration with
  | none => simp [SlowOperation.run, Job.endsWithin, hd]
  | some d =>
    have hlt : ¬ d < op.limit := Nat.not_lt.2 (h d hd)
    simp [SlowOperation.run, Job.endsWithin, hd, Option.filter, hlt]

end Race

end AssetOracle
