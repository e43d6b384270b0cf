import Mathlib.Data.List.Induction

/-!
# Histories

A system whose steps may be impossible is run through a history of events, which can happen if each
step can. What holds at the start and is kept by every step holds after every history that can
happen; a property may speak of the history so far.
-/

namespace AssetOracle.History

variable {σ ε : Type} {step : σ → ε → Option σ} {s s' : σ} {history : List ε} {event : ε}

theorem foldlM_append_singleton :
    (history ++ [event]).foldlM step s = (history.foldlM step s).bind (step · event) := by
  rw [List.foldlM_append]
  cases history.foldlM step s with
  | none => rfl
  | some before => exact bind_pure (step before event)

/-- The invariants of runs, by induction on the history from its end. -/
theorem induction {P : List ε → σ → Prop} (hstart : P [] s)
    (hstep : ∀ {front event before after}, P front before → step before event = some after →
      P (front ++ [event]) after)
    (hrun : history.foldlM step s = some s') : P history s' := by
  induction history using List.reverseRecOn generalizing s' with
  | nil =>
    obtain rfl := Option.some.inj hrun
    exact hstart
  | append_singleton front event ih =>
    rw [foldlM_append_singleton] at hrun
    obtain ⟨before, hbefore, hafter⟩ := Option.bind_eq_some_iff.1 hrun
    exact hstep (ih hbefore) hafter

end AssetOracle.History
