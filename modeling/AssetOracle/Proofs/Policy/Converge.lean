import Mathlib.Data.ENat.Lattice
import AssetOracle.Policy.Series
import AssetOracle.Proofs.Duration
import AssetOracle.Proofs.History

/-!
# How attempts come to an end

A series of attempts is the loop over a 32-bit counter that `Series` describes: the loop makes the
same attempts, one when the other is over, and ends in the same result after the same time
(`Series.makes_attemptFrom`), and its counter never runs past the limit (`Series.Counts.step`). It
ends at the first success, or at the limit (`attemptFrom_ends`).
-/

namespace AssetOracle

variable {attempt : Nat → Settled} {most : UInt32} {c c' : Series} {settled : List Settled}

/-- Whether an attempt succeeded. -/
def Settled.Succeeds (s : Settled) : Prop := ∃ state, s.result = .ok state

theorem Settled.not_succeeds_iff {s : Settled} : ¬ s.Succeeds ↔ ∃ e, s.result = .error e := by
  unfold Settled.Succeeds
  cases s.result <;> simp

/-- The position of the first success, counted from one, and infinity if there is none. -/
noncomputable def firstSuccess (attempt : Nat → Settled) : ℕ∞ :=
  sInf {k | ∃ n : Nat, (attempt n).Succeeds ∧ k = n + 1}

/-- A series ends with the first attempt that succeeds, and with the last one that it has if none
    does. -/
theorem attemptFrom_ends (attempt : Nat → Settled) (n spare : Nat) :
    ∃ m ≤ spare, (attemptFrom attempt n spare).attempts = (List.range' n (m + 1)).map attempt ∧
      (attemptFrom attempt n spare).result = (attempt (n + m)).result ∧
      (∀ i < m, ¬ (attempt (n + i)).Succeeds) ∧ ((attempt (n + m)).Succeeds ∨ m = spare) := by
  induction spare generalizing n with
  | zero =>
    refine ⟨0, Nat.le_refl _, rfl, rfl, ?_, .inr rfl⟩
    intro i hi
    cases hi
  | succ spare ih =>
    unfold attemptFrom
    cases hfirst : (attempt n).result with
    | ok state =>
      refine ⟨0, Nat.zero_le _, rfl, rfl, ?_, .inl ⟨state, hfirst⟩⟩
      intro i hi
      cases hi
    | error e =>
      obtain ⟨m, hm, hattempts, hresult, hfails, hends⟩ := ih (n + 1)
      refine ⟨m + 1, by omega, ?_, ?_, ?_, ?_⟩
      · simp only [Converged.after, hattempts]
        rfl
      · simp only [Converged.after, hresult, Nat.add_right_comm n 1 m]
        rfl
      · intro i hi
        cases i with
        | zero => exact Settled.not_succeeds_iff.2 ⟨e, hfirst⟩
        | succ i =>
          have hlater := hfails i (by omega)
          rwa [Nat.add_right_comm n 1 i] at hlater
      · rw [Nat.add_right_comm n 1 m] at hends
        exact hends.imp id (congrArg (· + 1))

theorem firstSuccess_eq {m : Nat} (hs : (attempt m).Succeeds)
    (hfails : ∀ i < m, ¬ (attempt i).Succeeds) : firstSuccess attempt = m + 1 := by
  apply le_antisymm
  · exact sInf_le ⟨m, hs, rfl⟩
  · apply le_sInf
    rintro k ⟨n, hn, rfl⟩
    have hle : m ≤ n := Nat.le_of_not_lt fun hlt => hfails n hlt hn
    exact_mod_cast Nat.succ_le_succ hle

theorem lt_firstSuccess {m : Nat} (hfails : ∀ i < m, ¬ (attempt i).Succeeds) :
    (m : ℕ∞) < firstSuccess attempt := by
  have hle : (m + 1 : ℕ∞) ≤ firstSuccess attempt := by
    apply le_sInf
    rintro k ⟨n, hn, rfl⟩
    have hle : m ≤ n := Nat.le_of_not_lt fun hlt => hfails n hlt hn
    exact_mod_cast Nat.succ_le_succ hle
  exact lt_of_lt_of_le (by exact_mod_cast Nat.lt_succ_self m) hle

theorem attempts_attemptFrom_ne_nil (attempt : Nat → Settled) (n spare : Nat) :
    (attemptFrom attempt n spare).attempts ≠ [] := by
  obtain ⟨m, -, hattempts, -⟩ := attemptFrom_ends attempt n spare
  simp [hattempts]

/-! ## Time -/

/-- Whether in a series that begins at a moment each attempt starts when the one before it is over,
    and the series is over when the last one is. -/
def Converged.Chained (now : Duration) (c : Converged) : Prop :=
  ∀ i start s, (startsFrom now c.attempts)[i]? = some start → c.attempts[i]? = some s →
    (startsFrom now c.attempts ++ [now + c.elapsed])[i + 1]? = some (start + s.elapsed)

theorem Converged.chained_once (now : Duration) (s : Settled) : (once s).Chained now := by
  intro i start s' hstart hs
  cases i with
  | zero =>
    cases hstart
    cases hs
    rfl
  | succ i => cases hs

theorem Converged.Chained.after {now : Duration} {s : Settled} {c : Converged}
    (hne : c.attempts ≠ []) (h : c.Chained (now + s.elapsed)) : (after s c).Chained now := by
  obtain ⟨second, rest, hrest⟩ := List.exists_cons_of_ne_nil hne
  unfold Chained at h ⊢
  rw [Duration.add_assoc] at h
  simp only [Converged.after, hrest, startsFrom] at h ⊢
  intro i start s' hstart hs
  cases i with
  | zero =>
    cases hstart
    cases hs
    rfl
  | succ i => exact h i start s' hstart hs

theorem chained_attemptFrom (attempt : Nat → Settled) (n spare : Nat) (now : Duration) :
    (attemptFrom attempt n spare).Chained now := by
  induction spare generalizing n now with
  | zero => exact Converged.chained_once now (attempt n)
  | succ spare ih =>
    unfold attemptFrom
    cases hfirst : (attempt n).result with
    | ok state => exact Converged.chained_once now (attempt n)
    | error e =>
      apply Converged.Chained.after (attempts_attemptFrom_ne_nil attempt (n + 1) spare)
      exact ih (n + 1) (now + (attempt n).elapsed)

/-- A series takes no longer than its attempts may take together. -/
theorem elapsed_attemptFrom_le {limit : Duration} (h : ∀ n, (attempt n).elapsed ≤ limit)
    (n spare : Nat) :
    (attemptFrom attempt n spare).elapsed.micros ≤ (spare + 1) * limit.micros := by
  induction spare generalizing n with
  | zero =>
    rw [Nat.zero_add, Nat.one_mul]
    exact h n
  | succ spare ih =>
    unfold attemptFrom
    cases hfirst : (attempt n).result with
    | ok state =>
      exact Nat.le_trans (h n) (Nat.le_mul_of_pos_left _ (Nat.succ_pos _))
    | error e =>
      have hlast : (attempt n).elapsed.micros ≤ limit.micros := h n
      calc (attempt n).elapsed.micros + (attemptFrom attempt (n + 1) spare).elapsed.micros
          ≤ limit.micros + (spare + 1) * limit.micros := Nat.add_le_add hlast (ih (n + 1))
        _ = (spare + 1 + 1) * limit.micros := by rw [Nat.succ_mul (spare + 1), Nat.add_comm]

/-- Waiting for a slow operation does not take longer than its limit. -/
theorem SlowOperation.elapsed_run_le (op : SlowOperation) (asset : String)
    (job : Job (NodeResult OperationState)) : (op.run asset job).elapsed ≤ op.limit := by
  unfold SlowOperation.run
  split
  · rename_i duration hends
    exact Nat.le_of_lt (of_decide_eq_true (Option.filter_eq_some_iff.1 hends).2)
  · exact Nat.le_refl _

/-! ## The loop -/

namespace Series

/-- The rules of a step: with an attempt that succeeds or is the last one the series ends as the
    attempt does, and after a failure before the last one it goes on. -/
inductive Rule (most : UInt32) (c : Series) (s : Settled) : Series → Prop where
  | ended (hopen : c.result = none) (hends : s.Succeeds ∨ ¬ c.number < most) :
    Rule most c s ((c.record s).finish s.result)
  | retried (hopen : c.result = none) (hfails : ¬ s.Succeeds) (hlt : c.number < most) :
    Rule most c s (c.record s).next

theorem step_eq_some_iff {s : Settled} : c.step most s = some c' ↔ Rule most c s c' := by
  unfold step
  constructor
  · intro h
    split at h
    · cases h
    · rename_i hopen
      split at h
      · rename_i state hs
        obtain rfl := Option.some.inj h
        rw [← hs]
        exact .ended hopen (.inl ⟨state, hs⟩)
      · rename_i e hs
        split at h
        · rename_i hlt
          obtain rfl := Option.some.inj h
          exact .retried hopen (Settled.not_succeeds_iff.2 ⟨e, hs⟩) hlt
        · rename_i hlast
          obtain rfl := Option.some.inj h
          rw [← hs]
          exact .ended hopen (.inr hlast)
  · intro h
    cases h with
    | ended hopen hends =>
      cases hs : s.result with
      | ok state => simp [hopen]
      | error e =>
        have hfails : ¬ s.Succeeds := Settled.not_succeeds_iff.2 ⟨e, hs⟩
        simp [hopen, hends.resolve_left hfails]
    | retried hopen hfails hlt =>
      obtain ⟨e, hs⟩ := Settled.not_succeeds_iff.1 hfails
      simp [hopen, hs, hlt]

/-- A number below the limit is below the greatest word, so that the next one is a word too. -/
theorem toNat_number_next (s : Settled) (hlt : c.number < most) :
    (c.record s).next.number.toNat = c.number.toNat + 1 := by
  have hlt : c.number.toNat < most.toNat := UInt32.lt_iff_toNat_lt.1 hlt
  have hmost := most.toNat_lt
  simp only [next, record, UInt32.toNat_add, UInt32.toNat_one]
  exact Nat.mod_eq_of_lt (by omega)

/-- What holds of the counter: it is the number of the next attempt while the series goes on, and
    that of the last attempt when it is over, and it is not above the limit. -/
structure Counts (most : UInt32) (settled : List Settled) (c : Series) : Prop where
  open_eq : c.result = none → c.number.toNat = settled.length + 1
  over_eq : c.result ≠ none → c.number.toNat = settled.length
  le_most : c.number.toNat ≤ most.toNat

theorem Counts.step {s : Settled} (h : Counts most settled c) (hrule : Rule most c s c') :
    Counts most (settled ++ [s]) c' := by
  cases hrule with
  | ended hopen hends =>
    refine ⟨?_, ?_, h.le_most⟩
    · intro hopen'
      cases hopen'
    · intro _
      simpa [record, finish] using h.open_eq hopen
  | retried hopen hfails hlt =>
    refine ⟨?_, ?_, ?_⟩
    · intro _
      rw [toNat_number_next s hlt, h.open_eq hopen]
      simp
    · intro hover
      exact absurd hopen hover
    · rw [toNat_number_next s hlt]
      exact UInt32.lt_iff_toNat_lt.1 hlt

theorem Counts.of_run (hmost : 1 ≤ most.toNat) (hrun : ({} : Series).run most settled = some c) :
    Counts most settled c := by
  refine History.induction (P := Counts most) ?_ ?_ hrun
  · refine ⟨?_, ?_, hmost⟩
    · intro _
      rfl
    · intro hover
      exact absurd rfl hover
  · intro front s c c' hcounts hstep
    exact hcounts.step (step_eq_some_iff.1 hstep)

/-- Whether the loop makes the attempts of a series, each at its moment, and ends as the series
    does. -/
def Makes (most : UInt32) (c : Series) (x : Converged) : Prop :=
  ∃ c', c.run most x.attempts = some c' ∧ c'.result = some x.result ∧
    c'.now = c.now + x.elapsed ∧
    c'.made = c.made ++ (Converged.startsFrom c.now x.attempts).zip x.attempts

theorem makes_once {s : Settled} (hopen : c.result = none)
    (hends : s.Succeeds ∨ ¬ c.number < most) : Makes most c (.once s) := by
  refine ⟨(c.record s).finish s.result, ?_, rfl, rfl, rfl⟩
  simp [run, Converged.once, step_eq_some_iff.2 (.ended hopen hends)]

theorem Makes.after {s : Settled} {x : Converged} (hopen : c.result = none)
    (hfails : ¬ s.Succeeds) (hlt : c.number < most) (h : Makes most (c.record s).next x) :
    Makes most c (.after s x) := by
  obtain ⟨c', hrun, hresult, hnow, hmade⟩ := h
  refine ⟨c', ?_, hresult, ?_, ?_⟩
  · simpa [run, Converged.after, step_eq_some_iff.2 (.retried hopen hfails hlt)] using hrun
  · rw [hnow]
    exact Duration.add_assoc c.now s.elapsed x.elapsed
  · rw [hmade]
    simp [next, record, Converged.after, Converged.startsFrom]

/-- The loop makes the attempts of a series, if its counter is as far from the limit as there are
    attempts to spare. -/
theorem makes_attemptFrom (attempt : Nat → Settled) (n spare : Nat) (hopen : c.result = none)
    (hnumber : c.number.toNat + spare = most.toNat) :
    Makes most c (attemptFrom attempt n spare) := by
  induction spare generalizing n c with
  | zero =>
    apply makes_once hopen
    rw [UInt32.lt_iff_toNat_lt]
    exact .inr (by omega)
  | succ spare ih =>
    have hlt : c.number < most := by
      rw [UInt32.lt_iff_toNat_lt]
      omega
    unfold attemptFrom
    cases hfirst : (attempt n).result with
    | ok state => exact makes_once hopen (.inl ⟨state, hfirst⟩)
    | error e =>
      apply Makes.after hopen (Settled.not_succeeds_iff.2 ⟨e, hfirst⟩) hlt
      apply ih (c := (c.record (attempt n)).next) (n + 1) hopen
      rw [toNat_number_next (attempt n) hlt]
      omega

theorem toNat_max_one (n : UInt32) : (max n 1).toNat = max n.toNat 1 := by
  rw [Nat.max_def, show max n 1 = if n ≤ 1 then 1 else n from rfl]
  split <;> split <;> simp_all [UInt32.le_iff_toNat_le]

end Series

/-- A series makes one attempt after another up to the first success, if there is one among the
    attempts that it is given, and all of them otherwise. -/
theorem converge_stops (attempts : Nat) (attempt : Nat → Settled) :
    ∃ m < max attempts 1, (converge attempts attempt).made = m + 1 ∧
      (converge attempts attempt).attempts = (List.range (m + 1)).map attempt ∧
      (converge attempts attempt).result = (attempt m).result ∧
      ((attempt m).Succeeds ∧ firstSuccess attempt = m + 1 ∨
        ¬ (attempt m).Succeeds ∧ m + 1 = max attempts 1 ∧
          (m + 1 : Nat) < firstSuccess attempt) := by
  obtain ⟨m, hm, hattempts, hresult, hfails, hends⟩ := attemptFrom_ends attempt 0 (attempts - 1)
  rw [Nat.zero_add] at hresult hends
  simp only [Nat.zero_add] at hfails
  have hmade : (converge attempts attempt).attempts = (List.range (m + 1)).map attempt := by
    rw [List.range_eq_range']
    exact hattempts
  refine ⟨m, by omega, ?_, hmade, hresult, ?_⟩
  · simp [Converged.made, hmade]
  · by_cases hs : (attempt m).Succeeds
    · exact .inl ⟨hs, firstSuccess_eq hs hfails⟩
    · refine .inr ⟨hs, ?_, lt_firstSuccess ?_⟩
      · have hlast := hends.resolve_left hs
        omega
      · intro i hi
        rcases Nat.lt_succ_iff_lt_or_eq.1 hi with hlt | rfl
        · exact hfails i hlt
        · exact hs

/-- Whatever its attempts come to and however many it is given, a series ends. -/
theorem converge_ends (attempts : UInt32) (attempt : Nat → Settled) :
    ((converge attempts.toNat attempt).made : ℕ∞) =
        min (firstSuccess attempt) (max attempts.toNat 1 : Nat) ∧
      (converge attempts.toNat attempt).attempts =
        (List.range (converge attempts.toNat attempt).made).map attempt ∧
      (∀ k : Nat, firstSuccess attempt = k → k ≤ max attempts.toNat 1 →
        ∃ state, (attempt (k - 1)).result = .ok state ∧
          (converge attempts.toNat attempt).result = .ok state) ∧
      ((max attempts.toNat 1 : Nat) < firstSuccess attempt →
        ∃ e, (attempt (max attempts.toNat 1 - 1)).result = .error e ∧
          (converge attempts.toNat attempt).result = .error e) ∧
      (converge attempts.toNat attempt).Chained .zero ∧
      (∃ last, ({} : Series).run (max attempts 1) (converge attempts.toNat attempt).attempts =
          some last ∧
        last.result = some (converge attempts.toNat attempt).result ∧
        last.now = (converge attempts.toNat attempt).elapsed ∧
        last.made = (converge attempts.toNat attempt).starts.zip
          (converge attempts.toNat attempt).attempts ∧
        ∀ s, last.step (max attempts 1) s = none) ∧
      (∀ settled c, ({} : Series).run (max attempts 1) settled = some c →
        c.number.toNat = settled.length + (if c.result.isNone then 1 else 0) ∧
          c.number ≤ max attempts 1) ∧
      ∀ (op : SlowOperation) (asset : String) (job : Nat → Job (NodeResult OperationState)),
        (∀ n, attempt n = op.run asset (job n)) →
          (converge attempts.toNat attempt).elapsed.micros ≤
            max attempts.toNat 1 * op.limit.micros := by
  obtain ⟨m, hm, hmade, hattempts, hresult, hends⟩ := converge_stops attempts.toNat attempt
  have hmost : (max attempts 1).toNat = max attempts.toNat 1 := Series.toNat_max_one attempts
  refine ⟨?_, ?_, ?_, ?_, chained_attemptFrom attempt 0 _ _, ?_, ?_, ?_⟩
  · rw [hmade]
    rcases hends with ⟨-, hfirst⟩ | ⟨-, hlast, hnone⟩
    · rw [hfirst, min_eq_left (by exact_mod_cast hm)]
      rfl
    · rw [← hlast, min_eq_right hnone.le]
  · rw [hattempts, hmade]
  · intro k hk hle
    rcases hends with ⟨⟨state, hs⟩, hfirst⟩ | ⟨-, hlast, hnone⟩
    · have hkm : k = m + 1 := by
        rw [hk] at hfirst
        exact_mod_cast hfirst
      exact ⟨state, by rw [hkm]; exact hs, hresult.trans hs⟩
    · rw [hk, hlast] at hnone
      exact absurd (Nat.cast_lt.1 hnone) (Nat.not_lt.2 hle)
  · intro hnone
    rcases hends with ⟨-, hfirst⟩ | ⟨hfails, hlast, -⟩
    · rw [hfirst] at hnone
      have hlt : max attempts.toNat 1 < m + 1 := by exact_mod_cast hnone
      omega
    · obtain ⟨e, he⟩ := Settled.not_succeeds_iff.1 hfails
      rw [← hlast]
      exact ⟨e, he, hresult.trans he⟩
  · have hnumber : ({} : Series).number.toNat + (attempts.toNat - 1) = (max attempts 1).toNat := by
      rw [hmost, UInt32.toNat_one]
      omega
    obtain ⟨last, hrun, hover, hnow, hlist⟩ :=
      Series.makes_attemptFrom attempt 0 (attempts.toNat - 1) rfl hnumber
    refine ⟨last, hrun, hover, ?_, hlist, ?_⟩
    · rw [hnow]
      exact Duration.zero_add _
    · intro s
      simp [Series.step, hover]
  · intro settled c hrun
    have hcounts := Series.Counts.of_run (by omega) hrun
    refine ⟨?_, UInt32.le_iff_toNat_le.2 hcounts.le_most⟩
    cases hc : c.result with
    | none => exact hcounts.open_eq hc
    | some result => exact hcounts.over_eq (by simp [hc])
  · intro op asset job hjob
    have hlimit : ∀ n, (attempt n).elapsed ≤ op.limit := by
      intro n
      rw [hjob n]
      exact op.elapsed_run_le asset (job n)
    have hle := elapsed_attemptFrom_le hlimit 0 (attempts.toNat - 1)
    rwa [show attempts.toNat - 1 + 1 = max attempts.toNat 1 by omega] at hle

/-- Two calls that never end and then calls that succeed at once, each waited for up to a limit. -/
def thirdTime (n : Nat) : Settled :=
  SlowOperation.run ⟨"import_address", .ofMillis 10⟩ "BTC"
    (if n < 2 then ⟨none, .aborted⟩ else .instant (.ok .completed))

theorem converge_ends_thirdTime :
    (converge (4294967295 : UInt32).toNat thirdTime).made = 3 ∧
      (converge (4294967295 : UInt32).toNat thirdTime).result = .ok .completed ∧
      (converge (4294967295 : UInt32).toNat thirdTime).elapsed.micros ≤ 4294967295 * 10000 := by
  have hfirst : firstSuccess thirdTime = (3 : Nat) := by
    refine firstSuccess_eq (m := 2) ⟨.completed, rfl⟩ ?_
    intro i hi
    rw [Settled.not_succeeds_iff, thirdTime, if_pos hi]
    exact ⟨_, rfl⟩
  obtain ⟨hmade, -, hok, -, -, -, -, htime⟩ := converge_ends 4294967295 thirdTime
  refine ⟨?_, ?_, ?_⟩
  · rw [hfirst, min_eq_left (Nat.cast_le.2 (by decide))] at hmade
    exact Nat.cast_inj.1 hmade
  · obtain ⟨state, hstate, hresult⟩ := hok 3 hfirst (by decide)
    cases hstate
    exact hresult
  · exact htime ⟨"import_address", .ofMillis 10⟩ "BTC" _ fun _ => rfl

end AssetOracle
