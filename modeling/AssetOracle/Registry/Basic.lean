import AssetOracle.Keyed
import AssetOracle.Node.Error
import AssetOracle.Text.Lowercase
import AssetOracle.Text.Quoted

/-!
# The registry

The clients by asset id. Ids are compared in lower case: the key of a client is the lower-case
form of the id that it was registered under, the last registration of a key wins, and entries are
listed in ascending order of their keys.
-/

namespace AssetOracle

/-- Clients by the lower-case form of their asset ids. -/
structure Registry (α : Type) where
  entries : List (String × α)
  ascending : Keyed.Ascending entries

namespace Registry

variable {α β : Type}

/-- The registry without clients. -/
def empty : Registry α := ⟨[], List.Pairwise.nil⟩

/-- Registers a client, in the place of an earlier one of the same key. -/
def register (r : Registry α) (id : String) (client : α) : Registry α :=
  ⟨Keyed.put (Text.lowercase id) client r.entries, Keyed.ascending_put r.ascending⟩

/-- The client of an id. -/
def find? (r : Registry α) (id : String) : Option α := Keyed.find? (Text.lowercase id) r.entries

/-- The client of an id, or an error that spells the id as it was asked for. -/
def get (r : Registry α) (id : String) : NodeResult α :=
  match r.find? id with
  | some client => .ok client
  | none => .error (.notFound id)

/-- The number of clients. -/
def size (r : Registry α) : Nat := r.entries.length

/-- Whether there are no clients. -/
def isEmpty (r : Registry α) : Bool := r.entries.isEmpty

/-- The keys in ascending order. -/
def keys (r : Registry α) : List String := r.entries.map (·.1)

/-- The registry with other clients under the same keys. -/
def map (f : α → β) (r : Registry α) : Registry β :=
  ⟨r.entries.map fun (key, client) => (key, f client), by
    have h := r.ascending
    simp only [Keyed.Ascending] at h ⊢
    exact List.pairwise_map.2 (h.imp fun hlt => hlt)⟩

/-- The keys as they are shown to people. -/
def render (r : Registry α) : String :=
  "CoinRegistry \x7b clients: " ++ Text.quotedList r.keys ++ " \x7d"

/-- Two registrations of one key leave the later client. -/
theorem find?_register (r : Registry α) (id query : String) (client : α) :
    (r.register id client).find? query =
      if Text.lowercase id = Text.lowercase query then some client else r.find? query :=
  Keyed.find?_put _ _ _ _

end Registry

end AssetOracle
