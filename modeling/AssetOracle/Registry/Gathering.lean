import AssetOracle.Registry.Listing

/-!
# Gathering

A listing while it is being made. It begins with a slot for every entry of the registry and, if
states are wanted, with a task for every entry, in the order of the slots. After that clients may
be registered, and each task asks its client and ends, in any order and at any speed: a
registration changes the registry only, and a task changes nothing but itself. When all tasks have
ended, what the task of a slot brought is put into the slot, and the listing is complete.
-/

namespace AssetOracle

/-- How far the task of an entry has come: it has not run yet, it has asked its client and waits,
    or it has ended. -/
inductive Gathering.Phase where
  | spawned
  | asking
  | ended (ending : Ending (NodeResult ChainState))

/-- The task of an entry: the client that was registered under the key when the listing began, and
    how far asking it has come. -/
structure Gathering.Task where
  key : String
  client : Client
  phase : Gathering.Phase := .spawned

/-- A listing that is being made, beside the registry that it was started on: its slots, its
    tasks, and the clients that were asked, each with the key of the task that asked. -/
structure Gathering where
  registry : Registry Client
  slots : List RegisteredNode
  tasks : List Gathering.Task
  calls : List (String × Client) := []

namespace Gathering

/-- What may happen while a listing is being made. -/
inductive Event where
  | registered (id : String) (client : Client)
  | asked (key : String)
  | ended (key : String) (ending : Ending (NodeResult ChainState))

namespace Task

/-- The task of an entry before it runs. -/
def ofEntry : String × Client → Task
  | (key, client) => { key, client }

/-- The entry of a task. -/
def entry (t : Task) : String × Client := (t.key, t.client)

/-- The task after the task of a key has come to a phase. -/
def enter (key : String) (phase : Phase) (t : Task) : Task :=
  if t.key = key then { t with phase } else t

/-- How a task ended, if it has. -/
def ending? (t : Task) : Option (Ending (NodeResult ChainState)) :=
  match t.phase with
  | .ended ending => some ending
  | _ => none

theorem key_enter (key : String) (phase : Phase) (t : Task) : (t.enter key phase).key = t.key := by
  unfold enter; split <;> rfl

theorem client_enter (key : String) (phase : Phase) (t : Task) :
    (t.enter key phase).client = t.client := by
  unfold enter; split <;> rfl

theorem phase_enter (key : String) (phase : Phase) (t : Task) :
    (t.enter key phase).phase = if t.key = key then phase else t.phase := by
  unfold enter; split <;> rfl

theorem ending?_eq_some_iff {t : Task} {ending : Ending (NodeResult ChainState)} :
    t.ending? = some ending ↔ t.phase = .ended ending := by
  unfold ending?
  cases t.phase <;> simp

end Task

/-- Starts a listing: a slot for every entry and, if states are wanted, a task for every entry. -/
def start (r : Registry Client) (enrich : Bool) : Gathering where
  registry := r
  slots := r.keys.map .bare
  tasks := if enrich then r.entries.map Task.ofEntry else []

/-- The listing after an event, if the event can happen: a task asks once, before it ends. -/
def step (g : Gathering) : Event → Option Gathering
  | .registered id client => some { g with registry := g.registry.register id client }
  | .asked key =>
    match g.tasks.find? (·.key = key) with
    | some ⟨_, client, .spawned⟩ =>
      some { g with
        tasks := g.tasks.map (Task.enter key .asking)
        calls := g.calls ++ [(key, client)] }
    | _ => none
  | .ended key ending =>
    match g.tasks.find? (·.key = key) with
    | some ⟨_, _, .asking⟩ => some { g with tasks := g.tasks.map (Task.enter key (.ended ending)) }
    | _ => none

/-- The listing after a history of events, if it can happen. -/
def run (g : Gathering) (history : List Event) : Option Gathering := history.foldlM step g

/-- Whether all tasks have ended. -/
def isComplete (g : Gathering) : Bool := g.tasks.all (·.ending?.isSome)

/-- A slot after its task has ended. -/
def receive (slot : RegisteredNode) (ending : Ending (NodeResult ChainState)) : RegisteredNode :=
  match Listing.stateOf ending with
  | some state => { slot with info := some state }
  | none => slot

/-- The slots with what their tasks brought, in the order of both. -/
def fill : List RegisteredNode → List (Ending (NodeResult ChainState)) → List RegisteredNode
  | slot :: slots, ending :: endings => receive slot ending :: fill slots endings
  | slots, _ => slots

/-- How all tasks ended, in their order, once they have. -/
def endings? (g : Gathering) : Option (List (Ending (NodeResult ChainState))) :=
  g.tasks.mapM Task.ending?

/-- The entries of a complete listing. -/
def nodes? (g : Gathering) : Option (List RegisteredNode) := g.endings?.map (fill g.slots)

/-- What is counted of a complete listing. -/
def metrics? (g : Gathering) : Option (List Metric) :=
  g.endings?.map fun endings => List.zipWith Listing.metricOf (g.tasks.map (·.key)) endings

end Gathering

end AssetOracle
