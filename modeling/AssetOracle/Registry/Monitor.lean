import AssetOracle.Metrics
import AssetOracle.Registry.Gathering

/-!
# Listings over time

A registry that is listed again and again while clients are registered. Listings may overlap; each
works on the entries that it began with. When all tasks of a listing have ended, it finishes in one
go: what its tasks hand over is counted slot by slot, and the listing is returned. A listing that
nobody waits for any longer is given up, and nothing of it is counted.
-/

namespace AssetOracle

namespace Gathering

/-- What a task hands over once it has ended: the key that it was given and what its client
    answered, or nothing at all if it was aborted. -/
def Task.handed? (t : Task) : Option (Ending (String × NodeResult ChainState)) :=
  match t.phase with
  | .ended (.returned result) => some (.returned (t.key, result))
  | .ended .aborted => some .aborted
  | _ => none

/-- What is counted of a slot: an answer under the key that came with it, and a task that was
    aborted under the key of the slot. -/
def record (slot : RegisteredNode) : Ending (String × NodeResult ChainState) → Metric
  | .returned (key, .ok _) => .nodeInfo key true
  | .returned (key, .error _) => .nodeInfo key false
  | .aborted => .nodeInfo slot.asset false

/-- What is counted of a complete listing, slot by slot. -/
def records? (g : Gathering) : Option (List Metric) :=
  (g.tasks.mapM Task.handed?).map (List.zipWith record g.slots)

end Gathering

/-- A listing in progress: the registry that it began with, whether states are wanted, and how far
    it has come. -/
structure Monitor.Round where
  snapshot : Registry Client
  enrich : Bool
  gathering : Gathering

/-- A listing that was returned: its number, the registry that it began with, whether states were
    wanted, and its entries. -/
structure Monitor.Listed where
  number : Nat
  snapshot : Registry Client
  enrich : Bool
  nodes : List RegisteredNode

/-- A registry over time: its clients, how many listings have begun, those in progress by their
    numbers, those that have finished in the order in which they did, and what was counted. -/
structure Monitor where
  registry : Registry Client := .empty
  begun : Nat := 0
  rounds : Nat → Option Monitor.Round := fun _ => none
  finished : List Monitor.Listed := []
  counted : List Metric := []

namespace Monitor

/-- What may happen. Listings are numbered in the order in which they begin. -/
inductive Event where
  | registered (id : String) (client : Client)
  | began (enrich : Bool)
  | asked (number : Nat) (key : String)
  | ended (number : Nat) (key : String) (ending : Ending (NodeResult ChainState))
  | finished (number : Nat)
  | abandoned (number : Nat)

/-- The monitor with another listing, or none, in the place of a number. -/
def place (m : Monitor) (number : Nat) (round : Option Round) : Monitor :=
  { m with rounds := fun n => if n = number then round else m.rounds n }

/-- Begins a listing of the clients that are registered now. -/
def begin (m : Monitor) (enrich : Bool) : Monitor :=
  { m.place m.begun (some ⟨m.registry, enrich, .start m.registry enrich⟩) with
    begun := m.begun + 1 }

/-- Lets a listing in progress take a step. -/
def advance (m : Monitor) (number : Nat) (event : Gathering.Event) : Option Monitor := do
  let round ← m.rounds number
  let gathering ← round.gathering.step event
  return m.place number (some { round with gathering })

/-- Finishes a listing that is complete. -/
def finish (m : Monitor) (number : Nat) : Option Monitor := do
  let round ← m.rounds number
  let nodes ← round.gathering.nodes?
  let records ← round.gathering.records?
  return { m.place number none with
    finished := m.finished ++ [⟨number, round.snapshot, round.enrich, nodes⟩]
    counted := m.counted ++ records }

/-- The monitor after an event, if the event can happen. -/
def step (m : Monitor) : Event → Option Monitor
  | .registered id client => some { m with registry := m.registry.register id client }
  | .began enrich => some (m.begin enrich)
  | .asked number key => m.advance number (.asked key)
  | .ended number key ending => m.advance number (.ended key ending)
  | .finished number => m.finish number
  | .abandoned number => (m.rounds number).map fun _ => m.place number none

/-- The monitor after a history of events, if it can happen. -/
def run (m : Monitor) (history : List Event) : Option Monitor := history.foldlM step m

end Monitor

end AssetOracle
