import AssetOracle.Policy.Race
import AssetOracle.Proofs.Duration
import AssetOracle.Proofs.History

/-!
# Waiting for a slow call

Whatever happens in a wait, and in whatever order, the call does all that it does, once and at its
own times (`Goes.deeds_eq`). A caller that stays gets what the call answers if it ends before the
limit, and a timeout at the limit if it does not, and the wait is counted once under what the caller
got; a caller that goes away is not counted. Each event keeps this (`Goes.step`, `Waits.step`), and
a wait never gets stuck: what is due first can always happen (`exists_rule`), and so the call comes
to its end and the caller to its answer (`exists_finish`).
-/

namespace AssetOracle

namespace Race

variable {ε : Type} {op : SlowOperation} {asset : String} {course : Course ε}
  {before : List Metric} {r r' : Race ε} {time : Duration} {event : Event}
  {history : List (Duration × Event)}

/-- The words under which a result is counted. -/
inductive CountedAs : NodeResult OperationState → String → Prop where
  | state (state : OperationState) : CountedAs (.ok state) state.label
  | timeout (operation : String) (after : Duration) :
    CountedAs (.error (.timeout operation after)) "timeout"
  | error {e : NodeError} (h : e.isTimeout = false) : CountedAs (.error e) "error"

theorem countedAs_outcomeLabel (result : NodeResult OperationState) :
    CountedAs result (SlowOperation.outcomeLabel result) := by
  cases result with
  | ok state => exact .state state
  | error e =>
    cases e with
    | timeout operation after => exact .timeout operation after
    | _ => exact .error rfl

/-! ## Steps -/

/-- The rules of a step, one for each event. -/
inductive Rule (op : SlowOperation) (asset : String) (course : Course ε) (r : Race ε)
    (time : Duration) : Event → Race ε → Prop where
  | deed {what : ε} {todo : List (Duration × ε)} (htodo : r.todo = (time, what) :: todo) :
    Rule op asset course r time .deed
      { r with now := time, todo, done := r.done ++ [(time, what)] }
  | ended (hrunning : r.running = true) (htodo : r.todo = [])
      (hduration : course.job.duration = some time) :
    Rule op asset course r time .ended
      (answer op (op.passOn asset course.job.ending) { r with now := time, running := false })
  | limit (hwaiting : r.caller = .waiting) (htime : time = op.limit) :
    Rule op asset course r time .limit
      (answer op (.error (.timeout op.name op.limit)) { r with now := time })
  | left (hwaiting : r.caller = .waiting) :
    Rule op asset course r time .left { r with now := time, caller := .gone }

/-- Whether it may be a moment now: time does not run back, and nothing is left that was due. -/
def Reaches (op : SlowOperation) (course : Course ε) (r : Race ε) (time : Duration) : Prop :=
  r.now ≤ time ∧ ∀ due ∈ r.dues op course, time ≤ due

theorem Caller.isWaiting_iff {caller : Caller} : caller.isWaiting = true ↔ caller = .waiting := by
  cases caller <;> simp [isWaiting]

/-- A step is made by one of the rules, at a moment that may be reached. -/
theorem step_eq_some_iff :
    r.step op asset course (time, event) = some r' ↔
      Reaches op course r time ∧ Rule op asset course r time event r' := by
  unfold step
  constructor
  · intro h
    split at h
    · rename_i hreaches
      refine ⟨hreaches, ?_⟩
      cases event with
      | deed =>
        simp only [happen] at h
        split at h
        · rename_i due what todo htodo
          split at h
          · rename_i hdue
            obtain rfl := Option.some.inj h
            obtain rfl : due = time := hdue
            exact .deed htodo
          · cases h
        · cases h
      | ended =>
        simp only [happen] at h
        split at h
        · rename_i hends
          obtain ⟨hrunning, htodo, hduration⟩ := hends
          obtain rfl := Option.some.inj h
          exact .ended hrunning (List.isEmpty_iff.1 htodo) hduration
        · cases h
      | limit =>
        simp only [happen] at h
        split at h
        · rename_i hlimit
          obtain ⟨hwaiting, htime⟩ := hlimit
          obtain rfl := Option.some.inj h
          exact .limit (Caller.isWaiting_iff.1 hwaiting) htime
        · cases h
      | left =>
        simp only [happen] at h
        split at h
        · rename_i hwaiting
          obtain rfl := Option.some.inj h
          exact .left (Caller.isWaiting_iff.1 hwaiting)
        · cases h
    · cases h
  · rintro ⟨hreaches, hrule⟩
    have hreaches : r.now ≤ time ∧ ∀ due ∈ r.dues op course, time ≤ due := hreaches
    rw [if_pos hreaches]
    cases hrule with
    | deed htodo => simp [happen, htodo]
    | ended hrunning htodo hduration => simp [happen, hrunning, htodo, hduration]
    | limit hwaiting htime => simp [happen, hwaiting, htime, Caller.isWaiting]
    | left hwaiting => simp [happen, hwaiting, Caller.isWaiting]

theorem mem_dues {due : Duration} : due ∈ r.dues op course ↔
    (∃ deed ∈ r.todo, deed.1 = due) ∨ (r.running = true ∧ course.job.duration = some due) ∨
      (r.caller = .waiting ∧ due = op.limit) := by
  unfold dues
  rw [List.mem_append, List.mem_append, List.mem_map, or_assoc, ← Caller.isWaiting_iff]
  apply or_congr_right
  apply or_congr
  · split <;> simp_all
  · split <;> simp_all

theorem Reaches.le_todo (h : Reaches op course r time) {deed : Duration × ε}
    (hdeed : deed ∈ r.todo) : time ≤ deed.1 :=
  h.2 _ (mem_dues.2 (.inl ⟨deed, hdeed, rfl⟩))

theorem Reaches.le_end (h : Reaches op course r time) (hrunning : r.running = true)
    {duration : Duration} (hduration : course.job.duration = some duration) : time ≤ duration :=
  h.2 _ (mem_dues.2 (.inr (.inl ⟨hrunning, hduration⟩)))

theorem Reaches.le_limit (h : Reaches op course r time) (hwaiting : r.caller = .waiting) :
    time ≤ op.limit :=
  h.2 _ (mem_dues.2 (.inr (.inr ⟨hwaiting, rfl⟩)))

theorem answer_of_waiting (h : r.caller = .waiting) (result : NodeResult OperationState) :
    answer op result r =
      { r with
        caller := .answered result r.now
        counted := r.counted ++ [.slowOperation op.name (SlowOperation.outcomeLabel result)] } := by
  simp [answer, h]

theorem answer_of_not_waiting (h : r.caller ≠ .waiting) (result : NodeResult OperationState) :
    answer op result r = r := by
  unfold answer
  split
  · rename_i hwaiting
    exact absurd hwaiting h
  · rfl

@[simp] theorem now_answer (result : NodeResult OperationState) :
    (answer op result r).now = r.now := by
  unfold answer; split <;> rfl

@[simp] theorem todo_answer (result : NodeResult OperationState) :
    (answer op result r).todo = r.todo := by
  unfold answer; split <;> rfl

@[simp] theorem done_answer (result : NodeResult OperationState) :
    (answer op result r).done = r.done := by
  unfold answer; split <;> rfl

@[simp] theorem running_answer (result : NodeResult OperationState) :
    (answer op result r).running = r.running := by
  unfold answer; split <;> rfl

/-! ## The invariant -/

/-- What a caller gets that stays, and when: what the call answers, if it ends before the limit, and
    a timeout at the limit, if the call ends later or never. -/
inductive Gets (op : SlowOperation) (asset : String) (job : Job (NodeResult OperationState)) :
    NodeResult OperationState → Duration → Prop where
  | inTime {duration : Duration} (hduration : job.duration = some duration)
      (hlt : duration < op.limit) : Gets op asset job (op.passOn asset job.ending) duration
  | late (hlate : ∀ duration, job.duration = some duration → op.limit < duration) :
    Gets op asset job (.error (.timeout op.name op.limit)) op.limit

theorem Gets.eq_run {job : Job (NodeResult OperationState)} {result : NodeResult OperationState}
    (h : Gets op asset job result time) :
    result = (op.run asset job).result ∧ time = (op.run asset job).elapsed := by
  cases h with
  | inTime hduration hlt =>
    rw [run_of_endsWithin hduration hlt]
    exact ⟨rfl, rfl⟩
  | late hlate =>
    rw [run_of_late fun duration hduration => Nat.le_of_lt (hlate duration hduration)]
    exact ⟨rfl, rfl⟩

/-- What holds of the call after every history, whatever became of the caller: all that it does has
    been done at its time or is still to come, and it runs until its own end and no longer. -/
structure Goes (course : Course ε) (r : Race ε) : Prop where
  deeds_eq : r.done ++ r.todo = course.deeds
  later : ∀ deed ∈ r.todo, r.now ≤ deed.1
  running : r.running = true → ∀ duration, course.job.duration = some duration → r.now ≤ duration
  ended : r.running = false →
    r.todo = [] ∧ ∃ duration, course.job.duration = some duration ∧ duration ≤ r.now

/-- What holds of the caller after every history: what it has got it should get, and it was counted
    if it has got something. -/
structure Waits (op : SlowOperation) (asset : String) (course : Course ε) (before : List Metric)
    (history : List (Duration × Event)) (r : Race ε) : Prop where
  waiting : r.caller = .waiting → r.running = true ∧ r.now ≤ op.limit ∧ r.counted = before
  answered : ∀ result time, r.caller = .answered result time →
    Gets op asset course.job result time ∧
      r.counted = before ++ [.slowOperation op.name (SlowOperation.outcomeLabel result)]
  gone : r.caller = .gone → r.counted = before
  gone_iff : r.caller = .gone ↔ ∃ time, (time, .left) ∈ history

theorem goes_start (course : Course ε) (before : List Metric) :
    Goes course (start course before) where
  deeds_eq := rfl
  later := fun _ _ => Nat.zero_le _
  running := fun _ _ _ => Nat.zero_le _
  ended := by intro h; cases h

theorem Goes.step (h : Goes course r) (hreaches : Reaches op course r time)
    (hrule : Rule op asset course r time event r') : Goes course r' := by
  have hended : r.running = false →
      r.todo = [] ∧ ∃ duration, course.job.duration = some duration ∧ duration ≤ time := by
    intro hstopped
    obtain ⟨hnil, duration, hduration, hle⟩ := h.ended hstopped
    exact ⟨hnil, duration, hduration, Nat.le_trans hle hreaches.1⟩
  cases hrule with
  | @deed what todo htodo =>
    refine ⟨?_, ?_, ?_, ?_⟩
    · simp [← h.deeds_eq, htodo]
    · intro deed hdeed
      apply hreaches.le_todo
      rw [htodo]
      exact List.mem_cons_of_mem _ hdeed
    · intro hrunning duration hduration
      exact hreaches.le_end hrunning hduration
    · intro hstopped
      have hnil := (hended hstopped).1
      rw [htodo] at hnil
      cases hnil
  | ended hrunning htodo hduration =>
    refine ⟨?_, ?_, ?_, ?_⟩
    · simpa using h.deeds_eq
    · simp [htodo]
    · simp
    · intro _
      rw [todo_answer, now_answer]
      exact ⟨htodo, time, hduration, Nat.le_refl _⟩
  | limit hwaiting htime =>
    refine ⟨?_, ?_, ?_, ?_⟩
    · simpa using h.deeds_eq
    · simpa using fun due what hdeed => hreaches.le_todo hdeed
    · simpa using fun hrunning duration hduration => hreaches.le_end hrunning hduration
    · simpa using hended
  | left hwaiting =>
    refine ⟨h.deeds_eq, ?_, ?_, hended⟩
    · intro deed hdeed
      exact hreaches.le_todo hdeed
    · intro hrunning duration hduration
      exact hreaches.le_end hrunning hduration

theorem waits_start (op : SlowOperation) (asset : String) (course : Course ε)
    (before : List Metric) : Waits op asset course before [] (start course before) where
  waiting := fun _ => ⟨rfl, Nat.zero_le _, rfl⟩
  answered := by intro result time h; cases h
  gone := by intro h; cases h
  gone_iff := by simp [start]

namespace Waits

/-- An event that is not about a caller who does not wait leaves its side as it is. -/
theorem keep (h : Waits op asset course before history r) (hwaiting : r.caller ≠ .waiting)
    (hcaller : r'.caller = r.caller) (hcounted : r'.counted = r.counted) (hevent : event ≠ .left) :
    Waits op asset course before (history ++ [(time, event)]) r' := by
  refine ⟨?_, ?_, ?_, ?_⟩
  · intro hwait
    exact absurd (hcaller.symm.trans hwait) hwaiting
  · rw [hcaller, hcounted]
    exact h.answered
  · rw [hcaller, hcounted]
    exact h.gone
  · rw [hcaller, h.gone_iff]
    simp [hevent.symm]

/-- A caller that waits and is answered has got what it should get. -/
theorem answer {result : NodeResult OperationState} (h : Waits op asset course before history r)
    (hwaiting : r.caller = .waiting) (hgets : Gets op asset course.job result time)
    (hcaller : r'.caller = .answered result time)
    (hcounted : r'.counted =
      r.counted ++ [.slowOperation op.name (SlowOperation.outcomeLabel result)])
    (hevent : event ≠ .left) : Waits op asset course before (history ++ [(time, event)]) r' := by
  have hbefore := (h.waiting hwaiting).2.2
  have hstayed : ¬∃ time, (time, .left) ∈ history := by
    rw [← h.gone_iff, hwaiting]
    exact fun hgone => by cases hgone
  refine ⟨?_, ?_, ?_, ?_⟩
  · rw [hcaller]
    intro hwait
    cases hwait
  · intro result' time' hanswered
    rw [hcaller] at hanswered
    cases hanswered
    exact ⟨hgets, by rw [hcounted, hbefore]⟩
  · rw [hcaller]
    intro hgone
    cases hgone
  · rw [hcaller]
    simpa [hevent.symm] using hstayed

theorem step (h : Waits op asset course before history r)
    (hne : course.job.duration ≠ some op.limit) (hreaches : Reaches op course r time)
    (hrule : Rule op asset course r time event r') :
    Waits op asset course before (history ++ [(time, event)]) r' := by
  cases hrule with
  | deed htodo =>
    by_cases hwaiting : r.caller = .waiting
    · obtain ⟨hrunning, -, hbefore⟩ := h.waiting hwaiting
      refine ⟨fun _ => ⟨hrunning, hreaches.le_limit hwaiting, hbefore⟩, h.answered, h.gone, ?_⟩
      simpa using h.gone_iff
    · exact h.keep hwaiting rfl rfl (by simp)
  | ended hrunning htodo hduration =>
    by_cases hwaiting : r.caller = .waiting
    · have hlt : time < op.limit := by
        apply Duration.lt_of_le_of_ne (hreaches.le_limit hwaiting)
        rintro rfl
        exact hne hduration
      rw [answer_of_waiting (r := { r with now := time, running := false }) hwaiting]
      exact h.answer hwaiting (.inTime hduration hlt) rfl rfl (by simp)
    · rw [answer_of_not_waiting (r := { r with now := time, running := false }) hwaiting]
      exact h.keep hwaiting rfl rfl (by simp)
  | limit hwaiting htime =>
    subst htime
    have hlate : ∀ duration, course.job.duration = some duration → op.limit < duration := by
      intro duration hduration
      apply Duration.lt_of_le_of_ne (hreaches.le_end (h.waiting hwaiting).1 hduration)
      rintro rfl
      exact hne hduration
    rw [answer_of_waiting (r := { r with now := op.limit }) hwaiting]
    exact h.answer hwaiting (.late hlate) rfl rfl (by simp)
  | left hwaiting =>
    obtain ⟨-, -, hbefore⟩ := h.waiting hwaiting
    refine ⟨?_, ?_, fun _ => hbefore, ?_⟩
    · intro hwait
      cases hwait
    · intro result time hanswered
      cases hanswered
    · simp

end Waits

/-! ## Progress -/

theorem length_dues : (r.dues op course).length =
    r.todo.length + (if r.running then course.job.duration.toList.length else 0) +
      if r.caller.isWaiting then 1 else 0 := by
  unfold dues
  rw [List.length_append, List.length_append, List.length_map]
  congr 1
  · split <;> simp
  · split <;> simp

theorem isWaiting_answer (result : NodeResult OperationState) :
    (answer op result r).caller.isWaiting = false := by
  by_cases hwaiting : r.caller = .waiting
  · rw [answer_of_waiting hwaiting]
    rfl
  · rw [answer_of_not_waiting hwaiting, ← Bool.not_eq_true, Caller.isWaiting_iff]
    exact hwaiting

/-- Every event but the leaving of the caller does away with something that was due. -/
theorem length_dues_lt (hrule : Rule op asset course r time event r') (hevent : event ≠ .left) :
    (r'.dues op course).length < (r.dues op course).length := by
  rw [length_dues, length_dues]
  cases hrule with
  | deed htodo =>
    rw [htodo, List.length_cons]
    dsimp only
    omega
  | ended hrunning htodo hduration =>
    simp only [todo_answer, running_answer, isWaiting_answer, hrunning, hduration]
    simp
    omega
  | limit hwaiting htime =>
    simp [isWaiting_answer, Caller.isWaiting_iff.2 hwaiting]
  | left hwaiting => exact absurd rfl hevent

/-- What the call has still to do is in the order of its times. -/
theorem Goes.ordered_todo (h : Goes course r) : r.todo.Pairwise fun a b => a.1 ≤ b.1 := by
  have hordered := course.ordered
  rw [← h.deeds_eq] at hordered
  exact (List.pairwise_append.1 hordered).2.1

theorem Goes.mem_deeds (h : Goes course r) {deed : Duration × ε} (hdeed : deed ∈ r.todo) :
    deed ∈ course.deeds := by
  rw [← h.deeds_eq]
  exact List.mem_append_right _ hdeed

/-- If the next deed is not due after what is due first, it is due first. -/
theorem exists_deed (asset : String) {due : Duration} {deed : Duration × ε}
    {todo : List (Duration × ε)} (hreaches : Reaches op course r due) (htodo : r.todo = deed :: todo) (hle : deed.1 ≤ due) :
    ∃ r', Rule op asset course r due .deed r' := by
  have hfirst : due ≤ deed.1 := by
    apply hreaches.le_todo
    rw [htodo]
    exact List.mem_cons_self
  obtain ⟨time, what⟩ := deed
  obtain rfl : time = due := Duration.le_antisymm hle hfirst
  exact ⟨_, .deed htodo⟩

/-- As long as something is due, what is due first can happen. -/
theorem exists_rule (hgoes : Goes course r) (hwaits : Waits op asset course before history r)
    (hdues : r.dues op course ≠ []) :
    ∃ time event r', Reaches op course r time ∧ Rule op asset course r time event r' ∧
      event ≠ .left := by
  obtain ⟨due, hdue, hleast⟩ := Duration.exists_least hdues
  rcases mem_dues.1 hdue with ⟨deed, hdeed, rfl⟩ | ⟨hrunning, hduration⟩ | ⟨hwaiting, rfl⟩
  · have hreaches : Reaches op course r deed.1 := ⟨hgoes.later deed hdeed, hleast⟩
    cases htodo : r.todo with
    | nil =>
      rw [htodo] at hdeed
      cases hdeed
    | cons first todo =>
      have hle : first.1 ≤ deed.1 := by
        have hordered := hgoes.ordered_todo
        rw [htodo] at hdeed hordered
        cases hdeed with
        | head => exact Nat.le_refl _
        | tail _ hrest => exact List.rel_of_pairwise_cons hordered hrest
      obtain ⟨r', hrule⟩ := exists_deed asset hreaches htodo hle
      exact ⟨_, _, r', hreaches, hrule, by simp⟩
  · have hreaches : Reaches op course r due := ⟨hgoes.running hrunning due hduration, hleast⟩
    cases htodo : r.todo with
    | nil => exact ⟨due, .ended, _, hreaches, .ended hrunning htodo hduration, by simp⟩
    | cons first todo =>
      -- A call that is due to end does first what it has still to do.
      have hle : first.1 ≤ due := by
        apply course.beforeEnd due hduration
        apply hgoes.mem_deeds
        rw [htodo]
        exact List.mem_cons_self
      obtain ⟨r', hrule⟩ := exists_deed asset hreaches htodo hle
      exact ⟨_, _, r', hreaches, hrule, by simp⟩
  · have hreaches : Reaches op course r op.limit := ⟨(hwaits.waiting hwaiting).2.1, hleast⟩
    exact ⟨_, .limit, _, hreaches, .limit hwaiting rfl, by simp⟩

/-- A wait can always be brought to the point where nothing is due any more, without the caller's
    leaving. -/
theorem exists_finish (hne : course.job.duration ≠ some op.limit) (hgoes : Goes course r)
    (hwaits : Waits op asset course before history r) :
    ∃ later r', r.run op asset course later = some r' ∧ (∀ e ∈ later, e.2 ≠ .left) ∧
      r'.dues op course = [] := by
  induction hn : (r.dues op course).length using Nat.strongRecOn generalizing r history with
  | ind n ih =>
    by_cases hdues : r.dues op course = []
    · exact ⟨[], r, rfl, by simp, hdues⟩
    · obtain ⟨time, event, next, hreaches, hrule, hevent⟩ := exists_rule hgoes hwaits hdues
      have hlt := length_dues_lt hrule hevent
      rw [hn] at hlt
      obtain ⟨later, last, hrun, hlater, hover⟩ :=
        ih _ hlt (hgoes.step hreaches hrule) (hwaits.step hne hreaches hrule) rfl
      have hstep := step_eq_some_iff.2 ⟨hreaches, hrule⟩
      refine ⟨(time, event) :: later, last, ?_, ?_, hover⟩
      · simpa [run, hstep] using hrun
      · intro e he
        cases he with
        | head => exact hevent
        | tail _ he => exact hlater e he

/-! ## Runs -/

/-- What holds after every history. -/
theorem invariant (hne : course.job.duration ≠ some op.limit)
    (hrun : (start course before).run op asset course history = some r) :
    Goes course r ∧ Waits op asset course before history r := by
  refine History.induction (P := fun history r => Goes course r ∧
    Waits op asset course before history r) ⟨goes_start .., waits_start ..⟩ ?_ hrun
  rintro front ⟨time, event⟩ r r' ⟨hgoes, hwaits⟩ hstep
  obtain ⟨hreaches, hrule⟩ := step_eq_some_iff.1 hstep
  exact ⟨hgoes.step hreaches hrule, hwaits.step hne hreaches hrule⟩

theorem run_append {later : List (Duration × Event)}
    (hrun : r.run op asset course history = some r') :
    r.run op asset course (history ++ later) = r'.run op asset course later := by
  unfold run at *
  rw [List.foldlM_append, hrun]
  rfl

/-- A caller that waits has not waited longer than it waits for its answer. -/
theorem now_le_elapsed (hgoes : Goes course r) (hwaits : Waits op asset course before history r)
    (hwaiting : r.caller = .waiting) : r.now ≤ (op.run asset course.job).elapsed := by
  obtain ⟨hrunning, hlimit, -⟩ := hwaits.waiting hwaiting
  unfold SlowOperation.run
  split
  · rename_i duration hends
    apply hgoes.running hrunning duration
    exact (Option.filter_eq_some_iff.1 hends).1
  · exact hlimit

theorem slowOperations_append (events : List Metric) (name label operation outcome : String) :
    Metric.slowOperations (events ++ [.slowOperation name label]) operation outcome =
      Metric.slowOperations events operation outcome +
        if operation = name ∧ outcome = label then 1 else 0 := by
  unfold Metric.slowOperations
  rw [List.count_append, List.count_singleton]
  congr 1
  simp only [beq_iff_eq, Metric.slowOperation.injEq, eq_comm (a := operation),
    eq_comm (a := outcome)]

/-- What a wait comes to when nothing is due any more. -/
theorem Waits.atEnd (h : Waits op asset course before history r)
    (hover : r.dues op course = []) (hstays : ¬∃ time, (time, .left) ∈ history) :
    ∃ result time, r.caller = .answered result time := by
  cases hcaller : r.caller with
  | waiting =>
    have hlimit : op.limit ∈ r.dues op course := mem_dues.2 (.inr (.inr ⟨hcaller, rfl⟩))
    rw [hover] at hlimit
    cases hlimit
  | answered result time => exact ⟨result, time, rfl⟩
  | gone => exact absurd (h.gone_iff.1 hcaller) hstays

theorem Goes.atEnd (h : Goes course r) (hover : r.dues op course = []) :
    r.done = course.deeds ∧
      ∀ duration, course.job.duration = some duration → r.running = false := by
  constructor
  · rw [← h.deeds_eq]
    cases htodo : r.todo with
    | nil => simp
    | cons deed todo =>
      have hdeed : deed.1 ∈ r.dues op course := mem_dues.2 (.inl ⟨deed, by simp [htodo], rfl⟩)
      rw [hover] at hdeed
      cases hdeed
  · intro duration hduration
    rw [← Bool.not_eq_true]
    intro hrunning
    have hend : duration ∈ r.dues op course := mem_dues.2 (.inr (.inl ⟨hrunning, hduration⟩))
    rw [hover] at hend
    cases hend

/-- A call that ends before the limit gives its own outcome when it ends; one that ends later or
    never gives a timeout at the limit. In every history the call does all that it does once and at
    its own times and stops at its own end only, a caller that stays is answered so, and an answer
    is counted once, under its own label. -/
theorem wait_takes_its_course (op : SlowOperation) (asset : String) (course : Course ε)
    (before : List Metric) (hne : course.job.duration ≠ some op.limit) :
    (∀ duration, course.job.duration = some duration → duration < op.limit →
      (op.run asset course.job).elapsed = duration ∧
        (∀ result, course.job.ending = .returned result →
          (op.run asset course.job).result = result) ∧
        (course.job.ending = .aborted →
          (op.run asset course.job).result = .error (.failed asset op.name .aborted))) ∧
      ((∀ duration, course.job.duration = some duration → op.limit < duration) →
        (op.run asset course.job).elapsed = op.limit ∧
          (op.run asset course.job).result = .error (.timeout op.name op.limit)) ∧
      ∀ history r, (start course before).run op asset course history = some r →
        (r.done ++ r.todo = course.deeds ∧ (∀ deed ∈ r.todo, r.now ≤ deed.1) ∧
            (r.running = false → r.done = course.deeds ∧
              ∃ duration, course.job.duration = some duration ∧ duration ≤ r.now)) ∧
          (r.caller = .waiting → r.now ≤ (op.run asset course.job).elapsed) ∧
          (r.caller = .gone ↔ ∃ time, (time, .left) ∈ history) ∧
          (∀ result time, r.caller = .answered result time →
            result = (op.run asset course.job).result ∧
              time = (op.run asset course.job).elapsed ∧
              r.counted = before ++ [op.metric (op.run asset course.job)] ∧
              ∃ label, CountedAs result label ∧ ∀ operation outcome,
                Metric.slowOperations r.counted operation outcome =
                  Metric.slowOperations before operation outcome +
                    if operation = op.name ∧ outcome = label then 1 else 0) ∧
          ((∀ result time, r.caller ≠ .answered result time) → r.counted = before) ∧
          ∃ later r', (start course before).run op asset course (history ++ later) = some r' ∧
            (∀ e ∈ later, e.2 ≠ .left) ∧ r'.done = course.deeds ∧
            (∀ duration, course.job.duration = some duration → r'.running = false) ∧
            (r.caller ≠ .gone → ∃ result time, r'.caller = .answered result time) := by
  refine ⟨?_, ?_, ?_⟩
  · intro duration hduration hlt
    rw [run_of_endsWithin hduration hlt]
    refine ⟨rfl, ?_, ?_⟩
    · intro result hending
      rw [hending]
      rfl
    · intro hending
      rw [hending]
      rfl
  · intro hlate
    rw [run_of_late fun duration hduration => Nat.le_of_lt (hlate duration hduration)]
    exact ⟨rfl, rfl⟩
  · intro history r hrun
    obtain ⟨hgoes, hwaits⟩ := invariant hne hrun
    refine ⟨⟨hgoes.deeds_eq, hgoes.later, ?_⟩, now_le_elapsed hgoes hwaits, hwaits.gone_iff,
      ?_, ?_, ?_⟩
    · intro hstopped
      obtain ⟨hnil, hended⟩ := hgoes.ended hstopped
      refine ⟨?_, hended⟩
      rw [← hgoes.deeds_eq, hnil, List.append_nil]
    · intro result time hcaller
      obtain ⟨hgets, hcounted⟩ := hwaits.answered result time hcaller
      obtain ⟨hresult, htime⟩ := hgets.eq_run
      refine ⟨hresult, htime, ?_, _, countedAs_outcomeLabel result, ?_⟩
      · rw [hcounted, SlowOperation.metric, hresult]
      · intro operation outcome
        rw [hcounted, slowOperations_append]
    · intro hopen
      cases hcaller : r.caller with
      | waiting => exact (hwaits.waiting hcaller).2.2
      | answered result time => exact absurd hcaller (hopen result time)
      | gone => exact hwaits.gone hcaller
    · obtain ⟨later, r', hlater, hstays, hover⟩ := exists_finish hne hgoes hwaits
      have hrun' : (start course before).run op asset course (history ++ later) = some r' := by
        rw [run_append hrun, hlater]
      obtain ⟨hgoes', hwaits'⟩ := invariant hne hrun'
      obtain ⟨hdone, hended⟩ := hgoes'.atEnd hover
      refine ⟨later, r', hrun', hstays, hdone, hended, ?_⟩
      intro hstayed
      apply hwaits'.atEnd hover
      rintro ⟨time, hleft⟩
      rcases List.mem_append.1 hleft with hbefore | hafter
      · exact hstayed (hwaits.gone_iff.2 ⟨time, hbefore⟩)
      · exact hstays _ hafter rfl

/-- A call that does something after the limit and ends after that. -/
def lateCourse : Course String where
  job := ⟨some (.ofMillis 200), .returned (.ok .completed)⟩
  deeds := [(.ofMillis 20, "begun"), (.ofMillis 150, "written")]
  ordered := by decide
  beforeEnd := by
    rintro duration hduration deed hdeed
    cases hduration
    revert deed
    decide

theorem wait_takes_its_course_late :
    lateCourse.job.duration ≠ some (.ofMillis 100) ∧
      ∃ r, (start lateCourse []).run ⟨"import_address", .ofMillis 100⟩ "BTC" lateCourse
          [(.ofMillis 20, .deed), (.ofMillis 100, .limit)] = some r ∧
        r.done = [(.ofMillis 20, "begun")] ∧
        Metric.slowOperations r.counted "import_address" "timeout" = 1 ∧
        ∃ later r', (start lateCourse []).run ⟨"import_address", .ofMillis 100⟩ "BTC" lateCourse
            ([(.ofMillis 20, .deed), (.ofMillis 100, .limit)] ++ later) = some r' ∧
          r'.done = lateCourse.deeds := by
  have hne : lateCourse.job.duration ≠ some (.ofMillis 100) := by decide
  obtain ⟨-, -, hruns⟩ :=
    wait_takes_its_course ⟨"import_address", .ofMillis 100⟩ "BTC" lateCourse [] hne
  have hrun : (start lateCourse []).run ⟨"import_address", .ofMillis 100⟩ "BTC" lateCourse
      [(.ofMillis 20, .deed), (.ofMillis 100, .limit)] = some _ := rfl
  obtain ⟨-, -, -, hanswered, -, later, r', hrun', -, hdone, -⟩ := hruns _ _ hrun
  obtain ⟨-, -, -, label, hlabel, hcounts⟩ := hanswered _ _ rfl
  cases hlabel with
  | timeout => exact ⟨hne, _, hrun, rfl, hcounts _ _, later, r', hrun', hdone⟩
  | error h => cases h

end Race

end AssetOracle
