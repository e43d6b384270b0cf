/-!
# Ordered tables

Association lists with text keys in strictly ascending order. Putting a key replaces its value
or inserts it at its place, so the list depends only on the last value put under each key, and
listing a table is reading it.
-/

namespace AssetOracle

namespace Keyed

variable {α β : Type}

/-- Whether the keys are strictly ascending. -/
def Ascending (entries : List (String × α)) : Prop := entries.Pairwise fun a b => a.1 < b.1

/-- The value under a key. -/
def find? (key : String) : List (String × α) → Option α
  | [] => none
  | (k, v) :: rest => if k = key then some v else find? key rest

/-- The list with a value under a key. -/
def put (key : String) (value : α) : List (String × α) → List (String × α)
  | [] => [(key, value)]
  | (k, v) :: rest =>
    if key < k then (key, value) :: (k, v) :: rest
    else if key = k then (key, value) :: rest
    else (k, v) :: put key value rest

/-- A table built by putting pairs in order. -/
def ofList (pairs : List (String × α)) : List (String × α) :=
  pairs.foldl (fun entries (key, value) => put key value entries) []

theorem mem_put {key : String} {value : α} {entries : List (String × α)} {e : String × α}
    (h : e ∈ put key value entries) : e = (key, value) ∨ e ∈ entries := by
  induction entries with
  | nil => simpa [put] using h
  | cons head rest ih =>
    obtain ⟨k, v⟩ := head
    simp only [put] at h
    split at h
    · simpa using h
    · split at h
      · simp only [List.mem_cons] at h ⊢
        exact h.imp id .inr
      · simp only [List.mem_cons] at h ⊢
        rcases h with h | h
        · exact .inr (.inl h)
        · exact (ih h).imp id .inr

theorem ascending_put {key : String} {value : α} {entries : List (String × α)}
    (h : Ascending entries) : Ascending (put key value entries) := by
  induction entries with
  | nil => simp [put, Ascending]
  | cons head rest ih =>
    obtain ⟨k, v⟩ := head
    have hrest := List.pairwise_cons.1 h
    simp only [put]
    split
    · rename_i hlt
      refine List.pairwise_cons.2 ⟨fun e he => ?_, h⟩
      rcases List.mem_cons.1 he with rfl | he
      · exact hlt
      · exact String.lt_trans hlt (hrest.1 e he)
    · split
      · rename_i heq
        subst heq
        exact List.pairwise_cons.2 ⟨fun e he => hrest.1 e he, hrest.2⟩
      · rename_i hnlt hne
        refine List.pairwise_cons.2 ⟨fun e he => ?_, ih hrest.2⟩
        rcases mem_put he with rfl | he
        · exact String.not_le.1 fun hle => hne (String.le_antisymm hle (String.not_lt.1 hnlt))
        · exact hrest.1 e he

theorem ascending_foldl_put (pairs entries : List (String × α)) (h : Ascending entries) :
    Ascending (pairs.foldl (fun entries (key, value) => put key value entries) entries) := by
  induction pairs generalizing entries with
  | nil => exact h
  | cons p rest ih => exact ih _ (ascending_put h)

theorem ascending_ofList (pairs : List (String × α)) : Ascending (ofList pairs) :=
  ascending_foldl_put pairs [] List.Pairwise.nil

theorem find?_put (key query : String) (value : α) (entries : List (String × α)) :
    find? query (put key value entries) =
      if key = query then some value else find? query entries := by
  induction entries with
  | nil => simp [put, find?]
  | cons head rest ih =>
    obtain ⟨k, v⟩ := head
    simp only [put]
    split
    · simp [find?]
    · split
      · rename_i heq
        subst heq
        simp only [find?]
        split <;> rfl
      · rename_i hne
        simp only [find?, ih]
        split
        · rename_i hk
          subst hk
          simp [hne]
        · rfl

end Keyed

end AssetOracle
