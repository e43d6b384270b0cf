import Mathlib.Data.Finset.Card
import AssetOracle.Proofs.Keyed
import AssetOracle.Proofs.Text.Lowercase
import AssetOracle.Registry.Listing

/-!
# The registry after a history of registrations

A registry is the table that binds the lower-case form of every id to the client that was
registered last under it (`find?_ofHistory`). A history is the order in which registrations get
hold of the registry, whoever makes them. Everything else that a registry says follows from its
bindings, because its entries are an ordered table and ids are normalised in one way only.
-/

namespace AssetOracle.Registry

open Text (lowercase equalsIgnoringCase)

variable {α : Type} {history : List (String × α)} {key : String}

/-- The registry after registrations, in the order in which they were made. -/
def ofHistory (history : List (String × α)) : Registry α :=
  history.foldl (fun r (id, client) => r.register id client) .empty

/-- The client of the last registration under a key. -/
def latest (history : List (String × α)) (key : String) : Option α :=
  (history.filter fun e => lowercase e.1 = key).getLast?.map (·.2)

theorem latest_append_singleton (history : List (String × α)) (id key : String) (client : α) :
    latest (history ++ [(id, client)]) key =
      if lowercase id = key then some client else latest history key := by
  unfold latest
  rw [List.filter_append]
  by_cases hkey : lowercase id = key
  · simp [hkey]
  · simp [hkey]

theorem latest_eq_none_iff :
    latest history key = none ↔ ∀ e ∈ history, lowercase e.1 ≠ key := by
  simp [latest]

theorem mem_of_latest {client : α} (h : latest history key = some client) :
    ∃ e ∈ history, lowercase e.1 = key ∧ e.2 = client := by
  obtain ⟨e, he, rfl⟩ := Option.map_eq_some_iff.1 h
  have hmem := List.mem_filter.1 (List.mem_of_getLast? he)
  exact ⟨e, hmem.1, by simpa using hmem.2, rfl⟩

/-- Among registrations of different keys each one is the last of its key. -/
theorem latest_of_nodup (h : (history.map fun e => lowercase e.1).Nodup) {e : String × α}
    (he : e ∈ history) : latest history (lowercase e.1) = some e.2 := by
  cases hlatest : latest history (lowercase e.1) with
  | none => exact absurd rfl (latest_eq_none_iff.1 hlatest e he)
  | some client =>
    obtain ⟨other, hother, hkey, rfl⟩ := mem_of_latest hlatest
    rw [List.inj_on_of_nodup_map h hother he hkey]

theorem ofHistory_append_singleton (history : List (String × α)) (id : String) (client : α) :
    ofHistory (history ++ [(id, client)]) = (ofHistory history).register id client := by
  simp [ofHistory, List.foldl_append]

/-- One registration changes the binding of its own key only, so by induction on the history the
    bindings are those of the last registrations. -/
theorem find?_ofHistory (history : List (String × α)) (key : String) :
    Keyed.find? key (ofHistory history).entries = latest history key := by
  induction history using List.reverseRecOn with
  | nil => rfl
  | append_singleton history e ih =>
    obtain ⟨id, client⟩ := e
    have hput := Keyed.find?_put (lowercase id) key client (ofHistory history).entries
    rw [ofHistory_append_singleton, latest_append_singleton, ← ih]
    exact hput

theorem mem_entries_ofHistory {client : α} :
    (key, client) ∈ (ofHistory history).entries ↔ latest history key = some client := by
  rw [← find?_ofHistory, Keyed.find?_eq_some_iff (ofHistory history).ascending]

theorem get_ofHistory (history : List (String × α)) (query : String) :
    (ofHistory history).get query =
      match latest history (lowercase query) with
      | some client => .ok client
      | none => .error (.notFound query) := by
  have hfind := find?_ofHistory history (lowercase query)
  cases hlatest : latest history (lowercase query) with
  | none => simp [get, find?, hfind, hlatest]
  | some client => simp [get, find?, hfind, hlatest]

theorem mem_keys_ofHistory :
    key ∈ (ofHistory history).keys ↔ ∃ e ∈ history, lowercase e.1 = key := by
  have hnone := @latest_eq_none_iff _ history key
  rw [keys, List.mem_map]
  constructor
  · rintro ⟨⟨k, client⟩, hmem, rfl⟩
    have hsome := mem_entries_ofHistory.1 hmem
    by_contra hnot
    rw [hnone.2 fun e he heq => hnot ⟨e, he, heq⟩] at hsome
    cases hsome
  · rintro ⟨e, he, heq⟩
    cases hlatest : latest history key with
    | none => exact absurd heq (hnone.1 hlatest e he)
    | some client => exact ⟨(key, client), mem_entries_ofHistory.2 hlatest, rfl⟩

/-- There are as many clients as there are different keys among the registrations. -/
theorem size_ofHistory (history : List (String × α)) :
    (ofHistory history).size = (history.map fun e => lowercase e.1).toFinset.card := by
  have hkeys : (history.map fun e => lowercase e.1).toFinset =
      (ofHistory history).keys.toFinset := by
    ext key
    rw [List.mem_toFinset, List.mem_toFinset, mem_keys_ofHistory, List.mem_map]
  have hnodup : (ofHistory history).keys.Nodup := Keyed.nodup_keys (ofHistory history).ascending
  rw [hkeys, List.toFinset_card_of_nodup hnodup, keys, List.length_map, size]

/-- Registrations of different keys may change places. -/
theorem entries_ofHistory_congr {other : List (String × α)}
    (h : ∀ key, (other.filter fun e => lowercase e.1 = key) =
      history.filter fun e => lowercase e.1 = key) :
    (ofHistory other).entries = (ofHistory history).entries := by
  refine Keyed.ext_of_ascending (ofHistory history).ascending (ofHistory other).ascending ?_
  rintro ⟨key, client⟩
  rw [mem_entries_ofHistory, mem_entries_ofHistory, latest, latest, h key]

/-- A key is a lower-case form, and so it finds its own client. -/
theorem get_of_mem_entries {client : α} (h : (key, client) ∈ (ofHistory history).entries) :
    (ofHistory history).get key = .ok client := by
  obtain ⟨e, -, rfl⟩ := mem_keys_ofHistory.1 (List.mem_map_of_mem h)
  rw [get_ofHistory, Text.lowercase_lowercase, mem_entries_ofHistory.1 h]

theorem assets_list (r : Registry Client) (enrich : Bool) :
    (r.list enrich).nodes.map (·.asset) = r.keys := by
  cases enrich with
  | false => simp [list, Listing.bare, RegisteredNode.bare, keys, Function.comp_def]
  | true => simp [list, Listing.enriched, Listing.entryOf, RegisteredNode.bare, keys,
      Function.comp_def]

theorem keys_map {β : Type} (f : α → β) (r : Registry α) : (r.map f).keys = r.keys := by
  simp [map, keys, Function.comp_def]

theorem get_eq_ok_iff {r : Registry α} {query : String} {client : α} :
    r.get query = .ok client ↔ r.find? query = some client := by
  unfold get
  cases r.find? query <;> simp

theorem get_eq_notFound_iff {r : Registry α} {query : String} :
    r.get query = .error (.notFound query) ↔ r.find? query = none := by
  unfold get
  cases r.find? query <;> simp

theorem find?_map {β : Type} (f : α → β) (r : Registry α) (query : String) :
    (r.map f).find? query = (r.find? query).map f :=
  Keyed.find?_map f r.entries

/-- A registry is a map from lower-case ids to clients in which the last write wins, for every
    history of registrations: looking an id up, counting, and listing all read the bindings of
    that map, the case of the letters `A` to `Z` never tells two ids apart, and every key that is
    listed, by itself or as a registered node, finds the client that it is listed with. The
    entries are what sorting the bindings by their keys gives, in whatever order the bindings
    come, and only the order of registrations under one key matters. -/
theorem ofHistory_last_write_wins (history : List (String × α)) :
    (∀ query, (ofHistory history).get query =
        match latest history (lowercase query) with
        | some client => .ok client
        | none => .error (.notFound query)) ∧
      (∀ id other, equalsIgnoringCase id other = true → lowercase id = lowercase other) ∧
      (ofHistory history).size = (history.map fun e => lowercase e.1).toFinset.card ∧
      ((ofHistory history).entries.Pairwise fun a b => a.1 < b.1) ∧
      (∀ key client, (key, client) ∈ (ofHistory history).entries ↔
        latest history key = some client) ∧
      (∀ bindings : List (String × α), (bindings.map (·.1)).Nodup →
        (∀ key client, (key, client) ∈ bindings ↔ latest history key = some client) →
        bindings.mergeSort (fun a b => a.1 ≤ b.1) = (ofHistory history).entries) ∧
      (∀ other : List (String × α),
        (∀ key, (other.filter fun e => lowercase e.1 = key) =
          history.filter fun e => lowercase e.1 = key) →
        (ofHistory other).entries = (ofHistory history).entries) ∧
      (∀ key client, (key, client) ∈ (ofHistory history).entries →
        (ofHistory history).get key = .ok client) ∧
      (∀ (view : α → Client) (enrich : Bool),
        ∀ node ∈ (((ofHistory history).map view).list enrich).nodes,
          ∃ client, (node.asset, client) ∈ (ofHistory history).entries ∧
            (ofHistory history).get node.asset = .ok client) := by
  have hascending := (ofHistory history).ascending
  refine ⟨get_ofHistory history, fun _ _ => Text.lowercase_eq_of_equalsIgnoringCase,
    size_ofHistory history, hascending, fun _ _ => mem_entries_ofHistory, ?_, ?_,
    fun _ _ => get_of_mem_entries, ?_⟩
  · intro bindings hkeys hmem
    refine Keyed.mergeSort_of_mem_iff hascending hkeys ?_
    rintro ⟨key, client⟩
    rw [hmem, mem_entries_ofHistory]
  · exact fun _ => entries_ofHistory_congr
  · intro view enrich node hnode
    have hkey : node.asset ∈ (ofHistory history).keys := by
      rw [← keys_map view, ← assets_list _ enrich]
      exact List.mem_map_of_mem hnode
    obtain ⟨⟨key, client⟩, hmem, rfl⟩ := List.mem_map.1 hkey
    exact ⟨client, hmem, get_of_mem_entries hmem⟩

end AssetOracle.Registry
