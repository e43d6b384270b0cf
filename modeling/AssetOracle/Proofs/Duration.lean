import Mathlib.Data.List.MinMax
import AssetOracle.Duration

/-!
# The order of durations

Durations are ordered and added as the numbers of their microseconds are.
-/

namespace AssetOracle.Duration

variable {a b : Duration}

theorem le_antisymm (hle : a ≤ b) (hge : b ≤ a) : a = b :=
  congrArg Duration.mk (Nat.le_antisymm hle hge)

theorem lt_of_le_of_ne (hle : a ≤ b) (hne : a ≠ b) : a < b := by
  apply Nat.lt_of_le_of_ne hle
  intro heq
  exact hne (congrArg Duration.mk heq)

theorem add_assoc (a b c : Duration) : a + b + c = a + (b + c) :=
  congrArg Duration.mk (Nat.add_assoc a.micros b.micros c.micros)

theorem zero_add (a : Duration) : .zero + a = a := congrArg Duration.mk (Nat.zero_add a.micros)

theorem max_cases (a b : Duration) : b ≤ a ∧ max a b = a ∨ a < b ∧ max a b = b := by
  by_cases hle : b ≤ a
  · exact .inl ⟨hle, congrArg Duration.mk (Nat.max_eq_left hle)⟩
  · have hlt : a < b := Nat.lt_of_not_le hle
    exact .inr ⟨hlt, congrArg Duration.mk (Nat.max_eq_right (Nat.le_of_lt hlt))⟩

/-- Among some moments there is a first. -/
theorem exists_least {moments : List Duration} (h : moments ≠ []) :
    ∃ first ∈ moments, ∀ other ∈ moments, first ≤ other := by
  cases hleast : List.argmin Duration.micros moments with
  | none => exact absurd (List.argmin_eq_none.1 hleast) h
  | some first =>
    refine ⟨first, List.argmin_mem hleast, ?_⟩
    intro other hother
    exact List.le_of_mem_argmin hother hleast

end AssetOracle.Duration
