import AssetOracle.Keyed

/-!
# What an ordered table holds

An ordered table has one entry for each of its keys (`find?_eq_some_iff`), and it is given by its
entries alone: tables with the same entries are equal (`ext_of_ascending`), and sorting the entries
of a table by their keys gives the table, in whatever order they come (`mergeSort_of_mem_iff`). A
table that is made of pairs with different keys holds these pairs (`find?_ofList`).
-/

namespace AssetOracle.Keyed

variable {α : Type} {key : String} {value : α} {entries other : List (String × α)}

/-- Looking a key up finds the one entry of that key. -/
theorem find?_eq_some_iff (h : Ascending entries) :
    find? key entries = some value ↔ (key, value) ∈ entries := by
  induction entries with
  | nil => simp [find?]
  | cons head rest ih =>
    obtain ⟨k, v⟩ := head
    obtain ⟨hhead, hrest⟩ := List.pairwise_cons.1 h
    by_cases hk : k = key
    · subst hk
      have hnot : (k, value) ∉ rest := fun hmem => String.lt_irrefl k (hhead _ hmem)
      simp [find?, hnot, eq_comm]
    · have hne : (key, value) ≠ (k, v) := fun heq => hk (congrArg Prod.fst heq).symm
      simp only [find?, if_neg hk, ih hrest, List.mem_cons, hne, false_or]

theorem mem_of_find? (h : find? key entries = some value) : (key, value) ∈ entries := by
  induction entries with
  | nil => cases h
  | cons head rest ih =>
    obtain ⟨k, v⟩ := head
    rw [find?] at h
    by_cases hk : k = key
    · rw [if_pos hk] at h
      cases h
      exact hk ▸ List.mem_cons_self
    · rw [if_neg hk] at h
      exact List.mem_cons_of_mem _ (ih h)

theorem not_mem_of_find? (h : find? key entries = none) (value : α) : (key, value) ∉ entries := by
  induction entries with
  | nil => exact List.not_mem_nil
  | cons head rest ih =>
    obtain ⟨k, v⟩ := head
    rw [find?] at h
    by_cases hk : k = key
    · rw [if_pos hk] at h
      cases h
    · rw [if_neg hk] at h
      simp [Ne.symm hk, ih h]

theorem find?_map {β : Type} (f : α → β) (entries : List (String × α)) :
    find? key (entries.map fun (k, v) => (k, f v)) = (find? key entries).map f := by
  induction entries with
  | nil => rfl
  | cons head rest ih =>
    obtain ⟨k, v⟩ := head
    by_cases hk : k = key
    · simp [find?, hk]
    · simp [find?, hk, ih]

theorem eq_of_mem_of_mem (h : Ascending entries) {a b : String × α} (ha : a ∈ entries)
    (hb : b ∈ entries) (hkey : a.1 = b.1) : a = b := by
  have hfa := (find?_eq_some_iff h).2 ha
  have hfb := (find?_eq_some_iff h).2 hb
  rw [hkey, hfb] at hfa
  exact Prod.ext hkey (Option.some.inj hfa).symm

theorem nodup_keys (h : Ascending entries) : (entries.map (·.1)).Nodup := by
  refine List.pairwise_map.2 (h.imp fun hlt heq => ?_)
  rw [heq] at hlt
  exact String.lt_irrefl _ hlt

theorem nodup_of_nodup_keys (h : (entries.map (·.1)).Nodup) : entries.Nodup :=
  (List.pairwise_map.1 h).imp fun hne heq => hne (congrArg Prod.fst heq)

/-- Sorting by keys the entries of a table gives the table. -/
theorem mergeSort_of_mem_iff (h : Ascending entries) (hkeys : (other.map (·.1)).Nodup)
    (hmem : ∀ e, e ∈ other ↔ e ∈ entries) :
    other.mergeSort (fun a b => decide (a.1 ≤ b.1)) = entries := by
  have hperm : (other.mergeSort fun a b => decide (a.1 ≤ b.1)).Perm entries :=
    (List.mergeSort_perm other _).trans
      ((List.perm_ext_iff_of_nodup (nodup_of_nodup_keys hkeys)
        (nodup_of_nodup_keys (nodup_keys h))).2 hmem)
  have hsorted : (other.mergeSort fun a b => decide (a.1 ≤ b.1)).Pairwise
      fun a b => decide (a.1 ≤ b.1) = true := by
    apply List.pairwise_mergeSort
    · intro a b c hab hbc
      rw [decide_eq_true_eq] at hab hbc ⊢
      exact String.le_trans hab hbc
    · intro a b
      simpa using String.le_total a.1 b.1
  have hle : entries.Pairwise fun a b => decide (a.1 ≤ b.1) = true :=
    h.imp fun hlt => by simpa using String.not_lt.1 (String.lt_asymm hlt)
  refine List.Perm.eq_of_pairwise (fun a b ha hb hab hba => ?_) hsorted hle hperm
  rw [decide_eq_true_eq] at hab hba
  exact eq_of_mem_of_mem h (hperm.mem_iff.1 ha) hb (String.le_antisymm hab hba)

/-- Tables with the same entries are equal. -/
theorem ext_of_ascending (h : Ascending entries) (hother : Ascending other)
    (hmem : ∀ e, e ∈ other ↔ e ∈ entries) : other = entries := by
  have hself := mergeSort_of_mem_iff hother (nodup_keys hother) fun _ => Iff.rfl
  rw [← hself]
  exact mergeSort_of_mem_iff h (nodup_keys hother) hmem

/-! ## Tables of pairs -/

variable {pairs : List (String × α)}

theorem mem_of_mem_ofList {e : String × α} (h : e ∈ ofList pairs) : e ∈ pairs := by
  have hfold : ∀ (pairs entries : List (String × α)),
      e ∈ pairs.foldl (fun entries (key, value) => put key value entries) entries →
        e ∈ pairs ∨ e ∈ entries := by
    intro pairs
    induction pairs with
    | nil => exact fun entries h => .inr h
    | cons pair rest ih =>
      intro entries h
      rcases ih _ h with h | h
      · exact .inl (List.mem_cons_of_mem _ h)
      · rcases mem_put h with rfl | h
        · exact .inl List.mem_cons_self
        · exact .inr h
  exact (hfold pairs [] h).resolve_right List.not_mem_nil

theorem put_of_lt (h : ∀ e ∈ entries, e.1 < key) :
    put key value entries = entries ++ [(key, value)] := by
  induction entries with
  | nil => rfl
  | cons head rest ih =>
    obtain ⟨k, v⟩ := head
    obtain ⟨hhead, hrest⟩ := List.forall_mem_cons.1 h
    have hne : key ≠ k := by
      rintro rfl
      exact String.lt_irrefl _ hhead
    rw [put, if_neg (String.lt_asymm hhead), if_neg hne, ih hrest, List.cons_append]

theorem find?_eq_none (h : key ∉ entries.map (·.1)) : find? key entries = none := by
  induction entries with
  | nil => rfl
  | cons head rest ih =>
    obtain ⟨k, v⟩ := head
    rw [List.map_cons, List.mem_cons, not_or] at h
    rw [find?, if_neg (Ne.symm h.1), ih h.2]

/-- A table of pairs with different keys holds these pairs. -/
theorem find?_ofList (h : (pairs.map (·.1)).Nodup) :
    find? key (ofList pairs) = find? key pairs := by
  have hfold : ∀ (pairs entries : List (String × α)), (pairs.map (·.1)).Nodup →
      find? key (pairs.foldl (fun entries (key, value) => put key value entries) entries) =
        (find? key pairs).or (find? key entries) := by
    intro pairs
    induction pairs with
    | nil => exact fun entries _ => rfl
    | cons pair rest ih =>
      intro entries hnodup
      obtain ⟨k, v⟩ := pair
      obtain ⟨hk, hrest⟩ := List.nodup_cons.1 hnodup
      rw [List.foldl_cons, ih _ hrest, find?_put, find?]
      by_cases hkey : k = key
      · subst hkey
        rw [find?_eq_none hk, if_pos rfl, if_pos rfl]
        rfl
      · rw [if_neg hkey, if_neg hkey]
  rw [ofList, hfold pairs [] h]
  exact Option.or_none

end AssetOracle.Keyed
