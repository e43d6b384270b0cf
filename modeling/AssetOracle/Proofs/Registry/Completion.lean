import Mathlib.Algebra.Order.BigOperators.Group.List
import Mathlib.Algebra.Order.Ring.Nat
import AssetOracle.Proofs.Duration
import AssetOracle.Proofs.Registry.Interleaving
import AssetOracle.Registry.TimedListing

/-!
# When a listing returns

Whatever the order of events, a listing that began at a moment returns when the last of its clients
has ended that ask from that moment on. Neither the passing of time nor an event breaks what makes
it so (`Keeps.wait`, `Keeps.happen`): as long as a task has not asked the clock stands still, so
that all of them ask at the beginning, and before the return the moment is not past the last end.
If all clients end, there is always something that can happen until the listing has returned
(`Keeps.exists_rule`), and so it returns (`Keeps.exists_return`).
-/

namespace AssetOracle

namespace Gathering

variable {r : Registry Client} {enrich : Bool} {events : List Event} {g : Gathering}
  {tasks : List Task} {key : String} {phase : Phase} {last time : Duration}

/-- The moment at which the last of some clients ends, if all of them end. -/
def lastEnd (tasks : List Task) : Option Duration :=
  tasks.foldr (fun t last => Listing.later t.client.info.duration last) (some .zero)

theorem later_eq_some_iff {a b : Option Duration} : Listing.later a b = some last ↔
    ∃ d e, a = some d ∧ b = some e ∧ max d e = last := by
  cases a <;> cases b <;> simp [Listing.later]

theorem lastEnd_cons (t : Task) :
    lastEnd (t :: tasks) = Listing.later t.client.info.duration (lastEnd tasks) := rfl

theorem lastEnd_le (h : ∀ t ∈ tasks, ∃ d, t.client.info.duration = some d ∧ d ≤ time) :
    ∃ last, lastEnd tasks = some last ∧ last ≤ time := by
  induction tasks with
  | nil => exact ⟨.zero, rfl, Nat.zero_le _⟩
  | cons t tasks ih =>
    obtain ⟨⟨d, hd, hle⟩, htasks⟩ := List.forall_mem_cons.1 h
    obtain ⟨last, hlast, hlastLe⟩ := ih htasks
    refine ⟨max d last, ?_, Nat.max_le.2 ⟨hle, hlastLe⟩⟩
    rw [lastEnd_cons, hd, hlast]
    rfl

/-- The last end is the greatest of all, and none at all if there is no client. -/
theorem lastEnd_greatest (h : lastEnd tasks = some last) :
    (∀ t ∈ tasks, ∃ d, t.client.info.duration = some d ∧ d ≤ last) ∧
      (tasks = [] ∧ last = .zero ∨ ∃ t ∈ tasks, t.client.info.duration = some last) := by
  induction tasks generalizing last with
  | nil =>
    obtain rfl := Option.some.inj h
    simp
  | cons t tasks ih =>
    obtain ⟨d, rest, hd, hrest, rfl⟩ := later_eq_some_iff.1 h
    obtain ⟨hle, hmem⟩ := ih hrest
    refine ⟨?_, .inr ?_⟩
    · rw [List.forall_mem_cons]
      refine ⟨⟨d, hd, Nat.le_max_left _ _⟩, ?_⟩
      intro s hs
      obtain ⟨e, he, hele⟩ := hle s hs
      exact ⟨e, he, Nat.le_trans hele (Nat.le_max_right _ _)⟩
    · rcases Duration.max_cases d rest with ⟨-, hmax⟩ | ⟨hlt, hmax⟩
      · exact ⟨t, List.mem_cons_self, hd.trans (congrArg some hmax.symm)⟩
      · rcases hmem with ⟨-, rfl⟩ | ⟨s, hs, hend⟩
        · exact absurd hlt (Nat.not_lt_zero _)
        · exact ⟨s, List.mem_cons_of_mem _ hs, hend.trans (congrArg some hmax.symm)⟩

theorem Follows.lastEnd_eq (h : Follows r enrich events g) :
    lastEnd g.tasks = (r.list enrich).duration := by
  have hmap : lastEnd g.tasks = (g.tasks.map Task.entry).foldr
      (fun e last => Listing.later e.2.info.duration last) (some .zero) := by
    rw [List.foldr_map]
    rfl
  rw [hmap, h.entries_eq]
  cases enrich <;> rfl

theorem isComplete_iff :
    g.isComplete = true ↔ ∀ t ∈ g.tasks, ∃ ending, t.phase = .ended ending := by
  simp [isComplete, Option.isSome_iff_exists, Task.ending?_eq_some_iff]

theorem Follows.step_asked (h : Follows r enrich events g) {t : Task} (ht : t ∈ g.tasks)
    (hphase : t.phase = .spawned) : g.step (.asked t.key) = some { g with
      tasks := g.tasks.map (Task.enter t.key .asking)
      calls := g.calls ++ [t.entry] } := by
  have hfind := h.find?_eq ht
  obtain ⟨key, client, phase⟩ := t
  obtain rfl : phase = .spawned := hphase
  simp [Gathering.step, hfind, Task.entry]

theorem Follows.step_ended (h : Follows r enrich events g) {t : Task} (ht : t ∈ g.tasks)
    (hphase : t.phase = .asking) (ending : Ending (NodeResult ChainState)) :
    g.step (.ended t.key ending) =
      some { g with tasks := g.tasks.map (Task.enter t.key (.ended ending)) } := by
  have hfind := h.find?_eq ht
  obtain ⟨key, client, phase⟩ := t
  obtain rfl : phase = .asking := hphase
  simp [Gathering.step, hfind]

/-- How many events are still to come of a task. -/
def Phase.left : Phase → Nat
  | .spawned => 2
  | .asking => 1
  | .ended _ => 0

/-- When one task comes to a later phase, less is left of all of them. -/
theorem sum_left_enter_lt (phase : Phase) {t : Task} (ht : t ∈ tasks)
    (hsame : ∀ s ∈ tasks, s.key = t.key → s = t) (hlt : phase.left < t.phase.left) :
    ((tasks.map (Task.enter t.key phase)).map (·.phase.left)).sum <
      (tasks.map (·.phase.left)).sum := by
  rw [List.map_map]
  apply List.sum_lt_sum
  · intro s hs
    rw [Function.comp_apply, Task.phase_enter]
    split
    · rename_i hkey
      rw [hsame s hs hkey]
      exact Nat.le_of_lt hlt
    · exact Nat.le_refl _
  · refine ⟨t, ht, ?_⟩
    rw [Function.comp_apply, Task.phase_enter, if_pos rfl]
    exact hlt

end Gathering

namespace TimedListing

variable {r : Registry Client} {enrich : Bool} {began time : Duration} {c c' : TimedListing}
  {event : Event} {t : Gathering.Task}

/-! ## Steps -/

/-- Whether it may be a moment now: time does not run back, and nothing is left that was due. -/
def Reaches (c : TimedListing) (time : Duration) : Prop :=
  c.now ≤ time ∧ ∀ due ∈ c.dues, time ≤ due

/-- The rules by which events happen, one for each. -/
inductive Rule (c : TimedListing) : Event → TimedListing → Prop where
  | registered {id : String} {client : Client} {gathering : Gathering}
      (hstep : c.gathering.step (.registered id client) = some gathering) :
    Rule c (.registered id client) { c with gathering }
  | started (hlt : c.started < c.gathering.tasks.length) :
    Rule c .started { c with started := c.started + 1 }
  | asked {key : String} {gathering : Gathering} (hkey : key ∈ c.startedTasks.map (·.key))
      (hstep : c.gathering.step (.asked key) = some gathering) :
    Rule c (.asked key)
      { c with gathering, since := fun k => if k = key then c.now else c.since k }
  | ended {key : String} {t : Gathering.Task} {gathering : Gathering}
      (hfind : c.gathering.tasks.find? (·.key = key) = some t) (hend : c.endOf t = some c.now)
      (hstep : c.gathering.step (.ended key t.client.info.ending) = some gathering) :
    Rule c (.ended key) { c with gathering }
  | returned {nodes : List RegisteredNode} (hopen : c.returned = none)
      (hstarted : c.gathering.tasks.length ≤ c.started) (hnodes : c.gathering.nodes? = some nodes) :
    Rule c .returned { c with returned := some (nodes, c.now) }

theorem happen_eq_some_iff : c.happen event = some c' ↔ Rule c event c' := by
  constructor
  · intro h
    cases event with
    | registered id client =>
      rw [happen] at h
      obtain ⟨g, hstep, rfl⟩ := Option.map_eq_some_iff.1 h
      exact .registered hstep
    | started =>
      simp only [happen] at h
      split at h
      · rename_i hlt
        obtain rfl := Option.some.inj h
        exact .started hlt
      · cases h
    | asked key =>
      simp only [happen] at h
      split at h
      · rename_i hkey
        obtain ⟨g, hstep, rfl⟩ := Option.map_eq_some_iff.1 h
        exact .asked hkey hstep
      · cases h
    | ended key =>
      simp only [happen] at h
      split at h
      · rename_i t hfind
        split at h
        · rename_i hend
          obtain ⟨g, hstep, rfl⟩ := Option.map_eq_some_iff.1 h
          exact .ended hfind hend hstep
        · cases h
      · cases h
    | returned =>
      simp only [happen] at h
      split at h
      · rename_i hreturns
        obtain ⟨hopen, hstarted⟩ := hreturns
        obtain ⟨nodes, hnodes, rfl⟩ := Option.map_eq_some_iff.1 h
        exact .returned (Option.isNone_iff_eq_none.1 hopen) hstarted hnodes
      · cases h
  · intro h
    cases h with
    | registered hstep => simp [happen, hstep]
    | started hlt => simp [happen, hlt]
    | asked hkey hstep =>
      rw [happen, if_pos hkey, hstep]
      rfl
    | ended hfind hend hstep => simp [happen, hfind, hend, hstep]
    | returned hopen hstarted hnodes => simp [happen, hopen, hstarted, hnodes]

/-- A step lets time pass to a moment that may be reached, and then an event happens. -/
theorem step_eq_some_iff : c.step (time, event) = some c' ↔
    c.Reaches time ∧ Rule { c with now := time } event c' := by
  unfold step
  rw [← happen_eq_some_iff]
  constructor
  · intro h
    split at h
    · rename_i hreaches
      exact ⟨hreaches, h⟩
    · cases h
  · rintro ⟨hreaches, h⟩
    exact (if_pos hreaches).trans h

theorem Reaches.eq_now (h : c.Reaches time) (hready : c.isReady = true) : time = c.now := by
  apply Duration.le_antisymm _ h.1
  apply h.2
  simp [dues, hready]

theorem Reaches.le_end (h : c.Reaches time) (ht : t ∈ c.gathering.tasks) {due : Duration}
    (hend : c.endOf t = some due) : time ≤ due := by
  apply h.2
  rw [dues, List.mem_append, List.mem_filterMap]
  exact .inr ⟨t, ht, hend⟩

theorem endOf_asking {d : Duration} (hphase : t.phase = .asking)
    (hd : t.client.info.duration = some d) : c.endOf t = some (c.since t.key + d) := by
  simp [endOf, hphase, hd]

theorem endOf_eq_some_iff {due : Duration} : c.endOf t = some due ↔
    t.phase = .asking ∧ ∃ d, t.client.info.duration = some d ∧ c.since t.key + d = due := by
  unfold endOf
  cases t.phase <;> simp

/-! ## The invariant -/

/-- What holds of a listing that began at a moment: as long as there is a task that has not asked it
    is that moment, the tasks that ask have asked then, those that have ended have ended as their
    clients do, and the listing has returned, or may return, when the last client ends. -/
structure Keeps (r : Registry Client) (enrich : Bool) (began : Duration) (c : TimedListing) :
    Prop where
  follows : ∃ events, Gathering.Follows r enrich events c.gathering
  began_le : began ≤ c.now
  unstarted : c.started < c.gathering.tasks.length → c.now = began
  spawned : ∀ t ∈ c.gathering.tasks, t.phase = .spawned → c.now = began
  asking : ∀ t ∈ c.gathering.tasks, t.phase = .asking → c.since t.key = began ∧
    ∀ d, t.client.info.duration = some d → c.now ≤ began + d
  ended : ∀ t ∈ c.gathering.tasks, ∀ ending, t.phase = .ended ending →
    ending = t.client.info.ending ∧ ∃ d, t.client.info.duration = some d ∧ began + d ≤ c.now
  inTime : c.returned = none → ∀ last, (r.list enrich).duration = some last → c.now ≤ began + last
  returned : ∀ nodes time, c.returned = some (nodes, time) →
    c.gathering.tasks.length ≤ c.started ∧ c.gathering.nodes? = some nodes ∧
      ∃ last, (r.list enrich).duration = some last ∧ time = began + last

theorem keeps_start (r : Registry Client) (enrich : Bool) (began : Duration) :
    Keeps r enrich began (start r enrich began) where
  follows := ⟨[], Gathering.Follows.start r enrich⟩
  began_le := Nat.le_refl _
  unstarted := fun _ => rfl
  spawned := fun _ _ _ => rfl
  asking := by
    intro t ht hphase
    rw [Gathering.phase_of_mem_start ht] at hphase
    cases hphase
  ended := by
    intro t ht ending hphase
    rw [Gathering.phase_of_mem_start ht] at hphase
    cases hphase
  inTime := fun _ _ _ => Nat.le_add_right _ _
  returned := by
    intro nodes time h
    cases h

theorem isSpawned_iff : t.isSpawned = true ↔ t.phase = .spawned := by
  unfold Gathering.Task.isSpawned
  cases t.phase <;> simp

theorem isReady_of_complete (hopen : c.returned = none) (hc : c.gathering.isComplete = true) :
    c.isReady = true := by
  simp [isReady, hopen, hc]

namespace Keeps

theorem returned_eq_none (h : Keeps r enrich began c) (ht : t ∈ c.gathering.tasks)
    (hwaits : ∀ ending, t.phase ≠ .ended ending) : c.returned = none := by
  cases hreturned : c.returned with
  | none => rfl
  | some result =>
    obtain ⟨-, hnodes, -⟩ := h.returned result.1 result.2 hreturned
    have hall := Gathering.nodes?_isSome.1 (by rw [hnodes]; rfl)
    obtain ⟨ending, hended⟩ := hall t ht
    exact absurd hended (hwaits ending)

theorem isReady_of_unstarted (h : Keeps r enrich began c)
    (hlt : c.started < c.gathering.tasks.length) : c.isReady = true := by
  have hopen : c.returned = none := by
    cases hreturned : c.returned with
    | none => rfl
    | some result =>
      have hstarted := (h.returned result.1 result.2 hreturned).1
      exact absurd hlt (Nat.not_lt.2 hstarted)
  simp [isReady, hopen, hlt]

theorem isReady_of_spawned (h : Keeps r enrich began c) (ht : t ∈ c.gathering.tasks)
    (hphase : t.phase = .spawned) : c.isReady = true := by
  by_cases hlt : c.started < c.gathering.tasks.length
  · exact h.isReady_of_unstarted hlt
  · have hall : c.startedTasks = c.gathering.tasks := List.take_of_length_le (Nat.le_of_not_lt hlt)
    have hany : c.startedTasks.any (·.isSpawned) = true := by
      rw [hall, List.any_eq_true]
      exact ⟨t, ht, isSpawned_iff.2 hphase⟩
    rw [isReady, hany, Bool.or_true]

/-- Before the return no moment past the last end is reached. -/
theorem le_last (h : Keeps r enrich began c) (hreaches : c.Reaches time) (hopen : c.returned = none)
    {last : Duration} (hlast : (r.list enrich).duration = some last) : time ≤ began + last := by
  by_cases hready : c.isReady = true
  · rw [hreaches.eq_now hready]
    exact h.inTime hopen last hlast
  · have hwaits : ¬ c.gathering.isComplete = true := fun hc => hready (isReady_of_complete hopen hc)
    rw [Gathering.isComplete_iff] at hwaits
    push Not at hwaits
    obtain ⟨t, ht, hwaits⟩ := hwaits
    obtain ⟨events, hfollows⟩ := h.follows
    rw [← hfollows.lastEnd_eq] at hlast
    cases hphase : t.phase with
    | spawned => exact absurd (h.isReady_of_spawned ht hphase) hready
    | asking =>
      obtain ⟨d, hd, hle⟩ := (Gathering.lastEnd_greatest hlast).1 t ht
      have hend := hreaches.le_end ht (endOf_asking hphase hd)
      rw [(h.asking t ht hphase).1] at hend
      exact Nat.le_trans hend (Nat.add_le_add_left hle _)
    | ended ending => exact absurd hphase (hwaits ending)

/-- Time that passes breaks nothing. -/
theorem wait (h : Keeps r enrich began c) (hreaches : c.Reaches time) :
    Keeps r enrich began { c with now := time } where
  follows := h.follows
  began_le := Nat.le_trans h.began_le hreaches.1
  unstarted := by
    intro hlt
    exact (hreaches.eq_now (h.isReady_of_unstarted hlt)).trans (h.unstarted hlt)
  spawned := by
    intro t ht hphase
    exact (hreaches.eq_now (h.isReady_of_spawned ht hphase)).trans (h.spawned t ht hphase)
  asking := by
    intro t ht hphase
    refine ⟨(h.asking t ht hphase).1, ?_⟩
    intro d hd
    have hend := hreaches.le_end ht (endOf_asking hphase hd)
    rwa [(h.asking t ht hphase).1] at hend
  ended := by
    intro t ht ending hphase
    obtain ⟨hending, d, hd, hle⟩ := h.ended t ht ending hphase
    exact ⟨hending, d, hd, Nat.le_trans hle hreaches.1⟩
  inTime := fun hopen last hlast => h.le_last hreaches hopen hlast
  returned := h.returned

/-- What is kept when a task comes to another phase: the other tasks are as they were. -/
theorem enter (h : Keeps r enrich began c) {event : Gathering.Event} {gathering : Gathering}
    (hstep : c.gathering.step event = some gathering) {since : String → Duration}
    {phase : Gathering.Phase} (ht : t ∈ c.gathering.tasks)
    (hwaits : ∀ ending, t.phase ≠ .ended ending)
    (htasks : gathering.tasks = c.gathering.tasks.map (Gathering.Task.enter t.key phase))
    (hsince : ∀ key, key ≠ t.key → since key = c.since key) (hspawned : phase ≠ .spawned)
    (hasking : phase = .asking → since t.key = began ∧
      ∀ d, t.client.info.duration = some d → c.now ≤ began + d)
    (hended : ∀ ending, phase = .ended ending → ending = t.client.info.ending ∧
      ∃ d, t.client.info.duration = some d ∧ began + d ≤ c.now) :
    Keeps r enrich began { c with gathering, since } := by
  obtain ⟨events, hfollows⟩ := h.follows
  have hopen := h.returned_eq_none ht hwaits
  refine
    { follows := ⟨events ++ [event], hfollows.step hstep⟩
      began_le := h.began_le
      unstarted := ?_
      spawned := ?_
      asking := ?_
      ended := ?_
      inTime := h.inTime
      returned := ?_ }
  · intro hlt
    apply h.unstarted
    simpa [htasks] using hlt
  · rw [htasks, List.forall_mem_map]
    intro s hs
    rw [Gathering.Task.phase_enter]
    split
    · exact fun hphase => absurd hphase hspawned
    · exact h.spawned s hs
  · rw [htasks, List.forall_mem_map]
    intro s hs
    rw [Gathering.Task.phase_enter, Gathering.Task.key_enter, Gathering.Task.client_enter]
    split
    · rename_i hkey
      rw [hfollows.eq_of_key_eq hs ht hkey]
      exact hasking
    · rename_i hkey
      intro hphase
      refine ⟨?_, (h.asking s hs hphase).2⟩
      exact (hsince s.key hkey).trans (h.asking s hs hphase).1
  · rw [htasks, List.forall_mem_map]
    intro s hs
    rw [Gathering.Task.phase_enter, Gathering.Task.client_enter]
    split
    · rename_i hkey
      rw [hfollows.eq_of_key_eq hs ht hkey]
      exact hended
    · exact h.ended s hs
  · intro nodes time hreturned
    rw [hopen] at hreturned
    cases hreturned

/-- The listing may return at the last end only. -/
theorem now_eq_last (h : Keeps r enrich began c) (hopen : c.returned = none)
    (hnodes : c.gathering.nodes?.isSome = true) :
    ∃ last, (r.list enrich).duration = some last ∧ c.now = began + last := by
  obtain ⟨events, hfollows⟩ := h.follows
  have hends : ∀ t ∈ c.gathering.tasks, ∃ d, t.client.info.duration = some d ∧
      d ≤ c.now - began := by
    intro t ht
    obtain ⟨ending, hphase⟩ := Gathering.nodes?_isSome.1 hnodes t ht
    obtain ⟨-, d, hd, hle⟩ := h.ended t ht ending hphase
    exact ⟨d, hd, Nat.le_sub_of_add_le' hle⟩
  obtain ⟨last, hlast, hle⟩ := Gathering.lastEnd_le hends
  rw [hfollows.lastEnd_eq] at hlast
  refine ⟨last, hlast, Duration.le_antisymm (h.inTime hopen last hlast) ?_⟩
  calc began.micros + last.micros
      ≤ began.micros + (c.now.micros - began.micros) := Nat.add_le_add_left hle _
    _ = c.now.micros := Nat.add_sub_cancel' h.began_le

/-- No event breaks anything. -/
theorem happen (h : Keeps r enrich began c) (hrule : Rule c event c') :
    Keeps r enrich began c' := by
  cases hrule with
  | registered hstep =>
    obtain ⟨events, hfollows⟩ := h.follows
    have hnext := hfollows.step hstep
    cases Gathering.rule_of_step hstep with
    | registered id client =>
      exact { h with follows := ⟨_, hnext⟩ }
  | started hlt =>
    exact { h with
      unstarted := fun hlt' => h.unstarted (Nat.lt_of_succ_lt hlt')
      returned := by
        intro nodes time hreturned
        have hstarted := (h.returned nodes time hreturned).1
        exact absurd hlt (Nat.not_lt.2 hstarted) }
  | asked hkey hstep =>
    cases Gathering.rule_of_step hstep with
    | asked t ht hphase =>
      have hnow := h.spawned t ht hphase
      apply h.enter hstep ht (by simp [hphase]) rfl
      · intro key hne
        exact if_neg hne
      · simp
      · intro _
        refine ⟨(if_pos rfl).trans hnow, ?_⟩
        intro d _
        rw [hnow]
        exact Nat.le_add_right _ _
      · intro ending hended
        cases hended
  | ended hfind hend hstep =>
    obtain ⟨hmem, hkey⟩ := Gathering.find?_key hfind
    obtain ⟨events, hfollows⟩ := h.follows
    cases Gathering.rule_of_step hstep with
    | ended s hs hphase ending =>
      obtain rfl := hfollows.eq_of_key_eq hmem hs hkey
      apply h.enter hstep hs (by simp [hphase]) rfl
      · intro key _
        rfl
      · simp
      · intro hasking
        cases hasking
      · intro ending hended
        cases hended
        obtain ⟨-, d, hd, hdue⟩ := endOf_eq_some_iff.1 hend
        rw [(h.asking _ hs hphase).1] at hdue
        exact ⟨rfl, d, hd, Nat.le_of_eq (congrArg Duration.micros hdue)⟩
  | returned hopen hstarted hnodes =>
    exact { h with
      inTime := fun hopen' => by cases hopen'
      returned := by
        intro nodes time hreturned
        cases hreturned
        exact ⟨hstarted, hnodes, h.now_eq_last hopen (by rw [hnodes]; rfl)⟩ }

theorem of_run {history : List (Duration × Event)}
    (hrun : (TimedListing.start r enrich began).run history = some c) : Keeps r enrich began c := by
  refine History.induction (P := fun _ c => Keeps r enrich began c)
    (keeps_start r enrich began) ?_ hrun
  rintro front ⟨time, event⟩ c c' h hstep
  obtain ⟨hreaches, hrule⟩ := step_eq_some_iff.1 hstep
  exact (h.wait hreaches).happen hrule

/-- What a listing returns is what its clients gave it. -/
theorem nodes_eq (h : Keeps r enrich began c) {nodes : List RegisteredNode}
    (hnodes : c.gathering.nodes? = some nodes) : nodes = (r.list enrich).nodes := by
  obtain ⟨events, hfollows⟩ := h.follows
  rw [Gathering.nodes_list]
  apply hfollows.nodes_eq_map hnodes
  intro e he ending hended
  rw [← Gathering.ended_mem_phases] at hended
  by_cases htask : ∃ t ∈ c.gathering.tasks, t.key = e.1
  · obtain ⟨t, ht, hkey⟩ := htask
    rw [← hkey, hfollows.phases_eq t ht, Gathering.Phase.ended_mem_path] at hended
    have hentry : t.entry = e :=
      Keyed.eq_of_mem_of_mem r.ascending (hfollows.mem_entries ht).2 he hkey
    rw [(h.ended t ht ending hended).1, ← hentry]
    rfl
  · rw [hfollows.phases_eq_nil e.1 fun t ht hkey => htask ⟨t, ht, hkey⟩] at hended
    cases hended

end Keeps

/-! ## Progress -/

/-- How many events are still to come of a listing. -/
def left (c : TimedListing) : Nat :=
  (c.gathering.tasks.length - c.started) + (c.gathering.tasks.map (·.phase.left)).sum +
    if c.returned.isNone then 1 else 0

namespace Keeps

/-- Nothing is due that is past. -/
theorem reaches_now (h : Keeps r enrich began c) : c.Reaches c.now := by
  refine ⟨Nat.le_refl _, ?_⟩
  intro due hdue
  rw [dues, List.mem_append, List.mem_filterMap] at hdue
  rcases hdue with hready | ⟨t, ht, hend⟩
  · split at hready
    · rw [List.mem_singleton.1 hready]
      exact Nat.le_refl _
    · cases hready
  · obtain ⟨hphase, d, hd, rfl⟩ := endOf_eq_some_iff.1 hend
    rw [(h.asking t ht hphase).1]
    exact (h.asking t ht hphase).2 d hd

/-- If some clients have not ended but all have been asked, the first of them to end is next. -/
theorem exists_ended (h : Keeps r enrich began c)
    (hends : ∀ t ∈ c.gathering.tasks, ∃ d, t.client.info.duration = some d)
    (hstarted : c.gathering.tasks.length ≤ c.started)
    (hspawned : ∀ t ∈ c.gathering.tasks, t.phase ≠ .spawned)
    (hcomplete : ¬ c.gathering.isComplete = true) :
    ∃ due, c.Reaches due ∧ ∃ t ∈ c.gathering.tasks, t.phase = .asking ∧ c.endOf t = some due := by
  have hready : c.isReady = false := by
    have hany : c.startedTasks.any (·.isSpawned) = false := by
      rw [List.any_eq_false]
      intro t ht hphase
      exact hspawned t (List.mem_of_mem_take ht) (isSpawned_iff.1 hphase)
    simp [isReady, hany, Nat.not_lt.2 hstarted, Bool.eq_false_iff.2 hcomplete]
  have hdues : c.dues = c.gathering.tasks.filterMap c.endOf := by simp [dues, hready]
  have hne : c.dues ≠ [] := by
    rw [Gathering.isComplete_iff] at hcomplete
    push Not at hcomplete
    obtain ⟨t, ht, hwaits⟩ := hcomplete
    obtain ⟨d, hd⟩ := hends t ht
    have hphase : t.phase = .asking := by
      cases hphase : t.phase with
      | spawned => exact absurd hphase (hspawned t ht)
      | asking => rfl
      | ended ending => exact absurd hphase (hwaits ending)
    rw [hdues]
    exact List.ne_nil_of_mem (List.mem_filterMap.2 ⟨t, ht, endOf_asking hphase hd⟩)
  obtain ⟨due, hdue, hleast⟩ := Duration.exists_least hne
  have hnow := h.reaches_now.2 due hdue
  rw [hdues, List.mem_filterMap] at hdue
  obtain ⟨t, ht, hend⟩ := hdue
  exact ⟨due, ⟨hnow, hleast⟩, t, ht, (endOf_eq_some_iff.1 hend).1, hend⟩

/-- As long as the listing has not returned, something else than a registration can happen, and then
    less is still to come. -/
theorem exists_rule (h : Keeps r enrich began c) (hopen : c.returned = none)
    (hends : ∀ t ∈ c.gathering.tasks, ∃ d, t.client.info.duration = some d) :
    ∃ time event c', c.Reaches time ∧ Rule { c with now := time } event c' ∧
      (∀ id client, event ≠ .registered id client) ∧ c'.left < c.left := by
  obtain ⟨events, hfollows⟩ := h.follows
  by_cases hlt : c.started < c.gathering.tasks.length
  · refine ⟨c.now, .started, _, h.reaches_now, .started hlt, by simp, ?_⟩
    simp only [left]
    omega
  · have hstarted := Nat.le_of_not_lt hlt
    by_cases hspawned : ∃ t ∈ c.gathering.tasks, t.phase = .spawned
    · obtain ⟨t, ht, hphase⟩ := hspawned
      have hkey : t.key ∈ c.startedTasks.map (·.key) := by
        rw [startedTasks, List.take_of_length_le hstarted]
        exact List.mem_map_of_mem ht
      refine ⟨c.now, .asked t.key, _, h.reaches_now, .asked hkey (hfollows.step_asked ht hphase),
        by simp, ?_⟩
      have hsum := Gathering.sum_left_enter_lt .asking ht
        (fun s hs hkey => hfollows.eq_of_key_eq hs ht hkey) (by rw [hphase]; decide)
      simp only [left, List.length_map]
      omega
    · push Not at hspawned
      by_cases hcomplete : c.gathering.isComplete = true
      · have hnodes := Gathering.nodes?_isSome.2 (Gathering.isComplete_iff.1 hcomplete)
        obtain ⟨nodes, hnodes⟩ := Option.isSome_iff_exists.1 hnodes
        refine ⟨c.now, .returned, _, h.reaches_now, .returned hopen hstarted hnodes, by simp, ?_⟩
        simp [left, hopen]
      · obtain ⟨due, hreaches, t, ht, hphase, hend⟩ :=
          h.exists_ended hends hstarted hspawned hcomplete
        refine ⟨due, .ended t.key, _, hreaches, .ended (hfollows.find?_eq ht) hend
          (hfollows.step_ended ht hphase t.client.info.ending), by simp, ?_⟩
        have hsum := Gathering.sum_left_enter_lt (.ended t.client.info.ending) ht
          (fun s hs hkey => hfollows.eq_of_key_eq hs ht hkey) (by rw [hphase]; exact Nat.one_pos)
        simp only [left, List.length_map]
        omega

/-- A listing of clients that all end can be brought to its return, without registrations. -/
theorem exists_return (h : Keeps r enrich began c)
    (hends : enrich = true → ∀ e ∈ r.entries, ∃ d, e.2.info.duration = some d) :
    ∃ later c', c.run later = some c' ∧ c'.returned.isSome = true ∧
      ∀ e ∈ later, ∀ id client, e.2 ≠ .registered id client := by
  induction hn : c.left using Nat.strongRecOn generalizing c with
  | ind n ih =>
    cases hreturned : c.returned with
    | some result => exact ⟨[], c, rfl, by simp [hreturned], by simp⟩
    | none =>
      obtain ⟨events, hfollows⟩ := h.follows
      have htasks : ∀ t ∈ c.gathering.tasks, ∃ d, t.client.info.duration = some d := by
        intro t ht
        obtain ⟨henrich, hentry⟩ := hfollows.mem_entries ht
        exact hends henrich t.entry hentry
      obtain ⟨time, event, next, hreaches, hrule, hevent, hlt⟩ := h.exists_rule hreturned htasks
      rw [hn] at hlt
      obtain ⟨later, last, hrun, hlast, hlater⟩ :=
        ih _ hlt ((h.wait hreaches).happen hrule) rfl
      have hstep := step_eq_some_iff.2 ⟨hreaches, hrule⟩
      refine ⟨(time, event) :: later, last, ?_, hlast, ?_⟩
      · simpa [run, hstep] using hrun
      · rw [List.forall_mem_cons]
        exact ⟨hevent, hlater⟩

end Keeps

/-- If all clients that are asked end, a listing that began at a moment returns when the last of
    them has ended since, at once if there is none, and not later: whatever happens in between, the
    return is reached, and before it the moment is not past. -/
theorem returns_at_last_end (r : Registry Client) (enrich : Bool) (began : Duration)
    (hends : enrich = true → ∀ e ∈ r.entries, ∃ d, e.2.info.duration = some d) :
    ∃ last, (r.list enrich).duration = some last ∧ (enrich = false → last = .zero) ∧
      (enrich = true → (∀ e ∈ r.entries, ∃ d, e.2.info.duration = some d ∧ d ≤ last) ∧
        (r.entries = [] ∧ last = .zero ∨ ∃ e ∈ r.entries, e.2.info.duration = some last)) ∧
      ∀ history c, (start r enrich began).run history = some c →
        (c.returned = none → c.now ≤ began + last) ∧
        (∀ nodes time, c.returned = some (nodes, time) →
          time = began + last ∧ nodes = (r.list enrich).nodes) ∧
        ∃ later c', c.run later = some c' ∧ c'.returned.isSome = true ∧
          ∀ e ∈ later, ∀ id client, e.2 ≠ .registered id client := by
  obtain ⟨events, c, hrun, hreturned, -⟩ := (keeps_start r enrich began).exists_return hends
  obtain ⟨⟨nodes, time⟩, hreturned⟩ := Option.isSome_iff_exists.1 hreturned
  obtain ⟨-, -, last, hlast, -⟩ := (Keeps.of_run hrun).returned nodes time hreturned
  refine ⟨last, hlast, ?_, ?_, ?_⟩
  · rintro rfl
    exact (Option.some.inj hlast).symm
  · rintro rfl
    rw [← (Gathering.Follows.start r true).lastEnd_eq] at hlast
    have htasks : (Gathering.start r true).tasks = r.entries.map Gathering.Task.ofEntry := rfl
    obtain ⟨hle, hmem⟩ := Gathering.lastEnd_greatest hlast
    rw [htasks] at hle hmem
    constructor
    · intro e he
      exact hle _ (List.mem_map_of_mem he)
    · rw [List.map_eq_nil_iff] at hmem
      refine hmem.imp id ?_
      rintro ⟨t, ht, hend⟩
      obtain ⟨e, he, rfl⟩ := List.mem_map.1 ht
      exact ⟨e, he, hend⟩
  · intro history c hrun
    have h := Keeps.of_run hrun
    refine ⟨fun hopen => h.inTime hopen last hlast, ?_, h.exists_return hends⟩
    intro nodes time hreturned
    obtain ⟨-, hnodes, last', hlast', htime⟩ := h.returned nodes time hreturned
    rw [hlast] at hlast'
    obtain rfl := Option.some.inj hlast'
    exact ⟨htime, h.nodes_eq hnodes⟩

/-- A client whose node answers after some milliseconds. -/
def slow (asset : String) (millis : Nat) (ending : Ending (NodeResult ChainState)) : Client where
  asset
  info := ⟨some (.ofMillis millis), ending⟩
  balance _ := ⟨none, .aborted⟩
  transaction _ := ⟨none, .aborted⟩

/-- Three clients of which the second one is the slowest; one fails and one panics. -/
def threeSlow : Registry Client :=
  ⟨[("btc", slow "btc" 200 (.returned (.ok ⟨"main", 7, "00"⟩))),
    ("eth", slow "eth" 300 (.returned (.error (.notFound "eth")))),
    ("xrp", slow "xrp" 100 .aborted)], by unfold Keyed.Ascending; decide⟩

/-- The tasks ask in another order than they are started, and a client is registered in between. -/
def overtaking : List (Duration × Event) :=
  [(.ofSeconds 1, .started), (.ofSeconds 1, .started), (.ofSeconds 1, .asked "eth"),
    (.ofSeconds 1, .started), (.ofSeconds 1, .asked "xrp"), (.ofSeconds 1, .asked "btc"),
    (.ofMillis 1100, .ended "xrp"), (.ofMillis 1150, .registered "ltc" (slow "ltc" 900 .aborted)),
    (.ofMillis 1200, .ended "btc"), (.ofMillis 1300, .ended "eth"), (.ofMillis 1300, .returned)]

theorem returns_at_last_end_overtaking :
    (∀ e ∈ threeSlow.entries, ∃ d, e.2.info.duration = some d) ∧
      ∃ c nodes time, (start threeSlow true (.ofSeconds 1)).run overtaking = some c ∧
        c.returned = some (nodes, time) ∧ time = .ofSeconds 1 + .ofMillis 300 ∧
        nodes = (threeSlow.list true).nodes := by
  have hends : ∀ e ∈ threeSlow.entries, ∃ d, e.2.info.duration = some d := by
    intro e he
    simp only [threeSlow, List.mem_cons, List.not_mem_nil, or_false] at he
    rcases he with rfl | rfl | rfl <;> exact ⟨_, rfl⟩
  obtain ⟨last, hlast, -, -, hruns⟩ :=
    returns_at_last_end threeSlow true (.ofSeconds 1) fun _ => hends
  obtain rfl : Duration.ofMillis 300 = last := Option.some.inj hlast
  have hrun : (start threeSlow true (.ofSeconds 1)).run overtaking = some _ := rfl
  obtain ⟨-, hreturned, -⟩ := hruns _ _ hrun
  obtain ⟨htime, hnodes⟩ := hreturned _ _ rfl
  exact ⟨hends, _, _, _, hrun, rfl, htime, hnodes⟩

end TimedListing

end AssetOracle
