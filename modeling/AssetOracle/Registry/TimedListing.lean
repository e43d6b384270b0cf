import AssetOracle.Registry.Gathering

/-!
# Listings under a clock

A listing as it takes its course in time. It starts its tasks one after another, without waiting in
between, and then waits until all of them have ended. A task that was started asks its client at
once and ends when the client does. Time does not pass while something can be done at once, nor
does it pass the moment at which a client ends.
-/

namespace AssetOracle

/-- Whether a task has not run yet. -/
def Gathering.Task.isSpawned (t : Gathering.Task) : Bool :=
  match t.phase with
  | .spawned => true
  | _ => false

/-- A listing under a clock: the listing itself, the moment, how many of its tasks were started, the
    moment at which the task of a key asked, and once the listing has returned what it returned and
    when. -/
structure TimedListing where
  gathering : Gathering
  now : Duration
  started : Nat := 0
  since : String → Duration := fun _ => .zero
  returned : Option (List RegisteredNode × Duration) := none

namespace TimedListing

/-- What may happen to a listing under a clock. -/
inductive Event where
  | registered (id : String) (client : Client)
  | started
  | asked (key : String)
  | ended (key : String)
  | returned

/-- The start of a listing at a moment. -/
def start (r : Registry Client) (enrich : Bool) (now : Duration) : TimedListing :=
  { gathering := .start r enrich, now }

/-- The tasks that were started. -/
def startedTasks (c : TimedListing) : List Gathering.Task := c.gathering.tasks.take c.started

/-- Whether something can be done at once: the listing can start a task or return, or a task that
    was started can ask. -/
def isReady (c : TimedListing) : Bool :=
  c.returned.isNone && (c.started < c.gathering.tasks.length || c.gathering.isComplete) ||
    c.startedTasks.any (·.isSpawned)

/-- The moment at which a task ends that has asked, if its client ends. -/
def endOf (c : TimedListing) (t : Gathering.Task) : Option Duration :=
  match t.phase with
  | .asking => t.client.info.duration.map (c.since t.key + ·)
  | _ => none

/-- The moments at which something is due. -/
def dues (c : TimedListing) : List Duration :=
  (if c.isReady then [c.now] else []) ++ c.gathering.tasks.filterMap c.endOf

/-- The listing after an event that happens now, if the event can happen. -/
def happen (c : TimedListing) : Event → Option TimedListing
  | .registered id client =>
    (c.gathering.step (.registered id client)).map fun gathering => { c with gathering }
  | .started =>
    if c.started < c.gathering.tasks.length then some { c with started := c.started + 1 } else none
  | .asked key =>
    if key ∈ c.startedTasks.map (·.key) then
      (c.gathering.step (.asked key)).map fun gathering =>
        { c with gathering, since := fun k => if k = key then c.now else c.since k }
    else none
  | .ended key =>
    match c.gathering.tasks.find? (·.key = key) with
    | some t =>
      if c.endOf t = some c.now then
        (c.gathering.step (.ended key t.client.info.ending)).map fun gathering =>
          { c with gathering }
      else none
    | none => none
  | .returned =>
    if c.returned.isNone ∧ c.gathering.tasks.length ≤ c.started then
      c.gathering.nodes?.map fun nodes => { c with returned := some (nodes, c.now) }
    else none

/-- The listing after an event at a moment. Before it nothing else may be due. -/
def step (c : TimedListing) (event : Duration × Event) : Option TimedListing :=
  if c.now ≤ event.1 ∧ ∀ due ∈ c.dues, event.1 ≤ due then
    happen { c with now := event.1 } event.2
  else none

/-- The listing after a history of events, if it can happen. -/
def run (c : TimedListing) (history : List (Duration × Event)) : Option TimedListing :=
  history.foldlM step c

end TimedListing

end AssetOracle
