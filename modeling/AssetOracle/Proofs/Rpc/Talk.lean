import AssetOracle.Rpc.Talk

/-!
# What a talk ends with and what it asks

The answers to its calls decide what a talk ends with (`result_bind`), and a talk that ends against
nodes ends with what their answers decide (`result_of_returned`). So what holds for all answers
holds against all nodes, whatever they do and however long they take (`Always.of_returned`). A run of
several parts is put together from the runs of these parts, value and calls (`run_bind`). The calls
that a talk makes against nodes are among those it may make at all (`Only.of_mem_calls`). And talks
that differ in nothing but their values make the same calls (`Alike.run`).
-/

namespace AssetOracle.Rpc.Talk

variable {α β : Type} {t : Talk α} {f : α → Talk β} {P : α → Prop} {Q : β → Prop} {value : α}
  {answers : Nat → Ask → Answer} {node : Node} {made n : Nat} {ask : Ask} {r : Reply}

/-- What follows a talk gets the answers that the talk has left. -/
theorem result_bind :
    (t >>= f).result answers made =
      (f (t.result answers made)).result answers (made + (t.asks answers made).length) := by
  induction t generalizing made with
  | done value => rfl
  | ask a next ih =>
    have hrest := @ih (answers made a) (made + 1)
    have hmade : made + ((Talk.ask a next).asks answers made).length =
        made + 1 + ((next (answers made a)).asks answers (made + 1)).length := by
      simp only [asks, List.length_cons]
      omega
    rw [hmade]
    exact hrest

/-- A talk that passes errors on has a value if its first part has one, and what follows it too. -/
theorem result_bind_eq_ok {ε : Type} {t : Talk (Except ε α)} {f : Except ε α → Talk (Except ε β)}
    {value : β} (hf : ∀ e, f (.error e) = pure (.error e))
    (h : (t >>= f).result answers made = .ok value) :
    ∃ first, t.result answers made = .ok first ∧
      (f (.ok first)).result answers (made + (t.asks answers made).length) = .ok value := by
  rw [result_bind] at h
  cases hfirst : t.result answers made with
  | error e =>
    rw [hfirst, hf] at h
    cases h
  | ok first =>
    rw [hfirst] at h
    exact ⟨first, rfl, h⟩

/-- The answers that callers get of nodes. A call that never ends has none, and nothing is done
    with the one that stands here in its place. -/
def answersOf (node : Node) (n : Nat) (ask : Ask) : Answer :=
  match (node n ask).answer ask.channel.limit with
  | some (answer, _) => answer
  | none => .late

/-- Only a reply is answered with a reply. -/
theorem eq_reply_of_answer {reaction : Reaction} {limit : Option Duration} {after : Duration}
    (h : reaction.answer limit = some (.reply r, after)) : reaction = .reply after r := by
  have hlate : limit.map (Answer.late, ·) ≠ some (.reply r, after) := by
    cases limit <;> simp
  unfold Reaction.answer at h
  cases hduration : reaction.duration? with
  | none =>
    rw [hduration] at h
    exact absurd h hlate
  | some duration =>
    simp only [hduration] at h
    by_cases hin : inTime limit duration = true
    · rw [if_pos hin] at h
      cases reaction with
      | reply after' content =>
        cases hduration
        cases h
        rfl
      | drop => cases h
      | unreachable => cases h
      | stall => cases h
    · rw [if_neg hin] at h
      exact absurd h hlate

theorem exists_reaction_of_reply (h : answersOf node n ask = .reply r) :
    ∃ after, node n ask = .reply after r := by
  unfold answersOf at h
  cases hanswer : (node n ask).answer ask.channel.limit with
  | none =>
    rw [hanswer] at h
    cases h
  | some given =>
    obtain ⟨answer, after⟩ := given
    rw [hanswer] at h
    subst h
    exact ⟨after, eq_reply_of_answer hanswer⟩

/-- The answers of nodes decide what a talk with them ends with, by induction on the talk. -/
theorem result_of_value (h : (t.run node made).value = some value) :
    t.result (answersOf node) made = value := by
  induction t generalizing made with
  | done v => exact Option.some.inj h
  | ask a next ih =>
    simp only [run] at h
    cases hanswer : (node made a).answer a.channel.limit with
    | none =>
      rw [hanswer] at h
      cases h
    | some given =>
      obtain ⟨answer, duration⟩ := given
      rw [hanswer] at h
      have hnext : answersOf node made a = answer := by
        unfold answersOf
        rw [hanswer]
      rw [result, hnext]
      exact ih answer h

theorem Run.ending_job_iff {run : Run α} :
    run.job.ending = .returned value ↔ run.value = some value := by
  unfold Run.job
  cases run.value with
  | none => simp
  | some v => simp

theorem result_of_returned (h : (t.run node made).job.ending = .returned value) :
    t.result (answersOf node) made = value :=
  result_of_value (Run.ending_job_iff.1 h)

theorem Run.ending_job_congr {run run' : Run α} (h : run.value = run'.value) :
    run.job.ending = run'.job.ending := by
  unfold Run.job
  rw [h]
  cases run'.value <;> rfl

/-- A reply that comes in time is the answer. -/
theorem answer_reply {limit : Option Duration} {after : Duration}
    (hin : inTime limit after = true) :
    (Reaction.reply after r).answer limit = some (.reply r, after) := by
  simp [Reaction.answer, Reaction.duration?, hin]

/-! ## Runs of several parts -/

section Run

variable {a : Ask} {next : Answer → Talk α} {answer : Answer} {after : Duration}

theorem ask_bind : Talk.ask a next >>= f = .ask a fun answer => next answer >>= f := rfl

/-- A talk goes on with the answer to its first call. -/
theorem run_of_answer (next : Answer → Talk α)
    (h : (node made a).answer a.channel.limit = some (answer, after)) :
    ((Talk.ask a next).run node made).value = ((next answer).run node (made + 1)).value ∧
      ((Talk.ask a next).run node made).calls =
        (a, node made a) :: ((next answer).run node (made + 1)).calls := by
  rw [run, h]
  exact ⟨rfl, rfl⟩

theorem run_of_no_answer (h : (node made a).answer a.channel.limit = none) :
    (Talk.ask a next).run node made = ⟨none, [(a, node made a)], .zero⟩ := by
  rw [run, h]

/-- A talk of one call ends with what the answer to it means, if there is one. -/
theorem run_once (g : Answer → α) :
    ((Talk.ask a fun answer => .done (g answer)).run node made).value =
        ((node made a).answer a.channel.limit).map (fun given => g given.1) ∧
      ((Talk.ask a fun answer => .done (g answer)).run node made).calls = [(a, node made a)] := by
  cases hanswer : (node made a).answer a.channel.limit with
  | none =>
    rw [run_of_no_answer hanswer]
    exact ⟨rfl, rfl⟩
  | some given =>
    obtain ⟨answer, after⟩ := given
    exact run_of_answer _ hanswer

/-- What follows a talk goes on with its value, and makes its calls after those of the talk. -/
theorem run_bind :
    ((t >>= f).run node made).value = (t.run node made).value.bind (fun value =>
        ((f value).run node (made + (t.run node made).calls.length)).value) ∧
      ((t >>= f).run node made).calls = (t.run node made).calls ++
        (t.run node made).value.elim [] fun value =>
          ((f value).run node (made + (t.run node made).calls.length)).calls := by
  induction t generalizing made with
  | done value => exact ⟨rfl, rfl⟩
  | ask a next ih =>
    rw [ask_bind]
    cases hanswer : (node made a).answer a.channel.limit with
    | none =>
      rw [run_of_no_answer hanswer, run_of_no_answer hanswer]
      exact ⟨rfl, rfl⟩
    | some given =>
      obtain ⟨answer, after⟩ := given
      obtain ⟨hvalue, hcalls⟩ := run_of_answer next hanswer
      obtain ⟨hvalue', hcalls'⟩ := run_of_answer (fun answer => next answer >>= f) hanswer
      have hmade : made + ((next answer).run node (made + 1)).calls.length.succ =
          made + 1 + ((next answer).run node (made + 1)).calls.length := by omega
      obtain ⟨ihvalue, ihcalls⟩ := @ih answer (made + 1)
      rw [hvalue, hcalls, hvalue', hcalls', List.length_cons, hmade, ihvalue, ihcalls]
      exact ⟨rfl, rfl⟩

/-- A talk is followed by no call if there is nothing left to do but to take its value further. -/
theorem run_bind_pure {g : α → β} (hf : ∀ value, f value = pure (g value)) :
    ((t >>= f).run node made).value = (t.run node made).value.map g ∧
      ((t >>= f).run node made).calls = (t.run node made).calls := by
  rw [run_bind.1, run_bind.2]
  cases (t.run node made).value with
  | none => exact ⟨rfl, List.append_nil _⟩
  | some value =>
    simp only [hf]
    exact ⟨rfl, List.append_nil _⟩

theorem run_map (g : α → β) :
    ((do return g (← t) : Talk β).run node made).value = (t.run node made).value.map g ∧
      ((do return g (← t) : Talk β).run node made).calls = (t.run node made).calls :=
  run_bind_pure fun _ => rfl

/-- A talk that passes errors on has a value exactly if its first part has one and what follows it
    too. -/
theorem value_bind_eq_ok_iff {ε : Type} {t : Talk (Except ε α)} {f : Except ε α → Talk (Except ε β)}
    {value : β} (hf : ∀ e, f (.error e) = pure (.error e)) :
    ((t >>= f).run node made).value = some (.ok value) ↔
      ∃ first, (t.run node made).value = some (.ok first) ∧
        ((f (.ok first)).run node (made + (t.run node made).calls.length)).value =
          some (.ok value) := by
  rw [run_bind.1]
  cases (t.run node made).value with
  | none => simp
  | some reply =>
    cases reply with
    | error e =>
      have hpure : ((pure (.error e) : Talk (Except ε β)).run node
        (made + (t.run node made).calls.length)).value = some (.error e) := rfl
      simp [hf, hpure]
    | ok first => simp

/-- Nodes that react to the calls of a talk in the same way make it run in the same way. -/
theorem run_congr {node' : Node} (h : ∀ n, made ≤ n → node' n = node n) :
    t.run node' made = t.run node made := by
  induction t generalizing made with
  | done value => rfl
  | ask a next ih =>
    have hrest (answer : Answer) := @ih answer (made + 1) fun n hn => h n (by omega)
    simp only [run, h made (Nat.le_refl made), hrest]

end Run

/-! ## What holds for all answers -/

/-- Whether a talk ends with such a value for all answers. -/
structure Always (P : α → Prop) (t : Talk α) : Prop where
  result : ∀ answers made, P (t.result answers made)

theorem always_true : Always (fun _ => True) t := ⟨fun _ _ => trivial⟩

theorem Always.pure (h : P value) : Always P (pure value) := ⟨fun _ _ => h⟩

theorem Always.bind (h : Always P t) (hf : ∀ value, P value → Always Q (f value)) :
    Always Q (t >>= f) := by
  constructor
  intro answers made
  rw [result_bind]
  exact (hf _ (h.result answers made)).result answers _

theorem Always.mono {R : α → Prop} (h : Always P t) (hPR : ∀ value, P value → R value) :
    Always R t := ⟨fun answers made => hPR _ (h.result answers made)⟩

theorem Always.of_returned (h : Always P t)
    (hend : (t.run node made).job.ending = .returned value) : P value := by
  rw [← result_of_returned hend]
  exact h.result _ made

/-! ## The calls of a talk -/

/-- Whether a talk makes only such calls, whatever the answers to them. -/
def Only (P : Ask → Prop) : Talk α → Prop
  | .done _ => True
  | .ask a next => P a ∧ ∀ answer, (next answer).Only P

variable {A : Ask → Prop}

theorem Only.pure (value : α) : Only A (pure value) := trivial

theorem Only.bind (h : t.Only A) (hf : ∀ value, (f value).Only A) : (t >>= f).Only A := by
  induction t with
  | done value => exact hf value
  | ask a next ih => exact ⟨h.1, fun answer => ih answer (h.2 answer)⟩

theorem Only.call {channel : Channel} {method : String} {params : List Json}
    (h : ∀ call, A ⟨channel, call⟩) : (Talk.call channel method params).Only A :=
  ⟨h _, fun _ => trivial⟩

/-- The first call of a talk is made in every run. -/
theorem mem_calls_ask {a : Ask} {next : Answer → Talk α} :
    (a, node made a) ∈ ((Talk.ask a next).run node made).calls := by
  simp only [run]
  cases (node made a).answer a.channel.limit <;> exact List.mem_cons_self

/-- The calls of a run are calls of the talk, by induction on the talk. -/
theorem Only.of_mem_calls (h : t.Only A) {made : Nat} {call : Ask × Reaction}
    (hcall : call ∈ (t.run node made).calls) : A call.1 := by
  induction t generalizing made with
  | done value => cases hcall
  | ask a next ih =>
    simp only [run] at hcall
    cases hanswer : (node made a).answer a.channel.limit with
    | none =>
      rw [hanswer] at hcall
      rw [List.mem_singleton.1 hcall]
      exact h.1
    | some given =>
      obtain ⟨answer, duration⟩ := given
      rw [hanswer] at hcall
      rcases List.mem_cons.1 hcall with rfl | hcall
      · exact h.1
      · exact ih answer (h.2 answer) hcall

/-- A caller with a limit gets an answer, whatever the node does. -/
theorem exists_answer (reaction : Reaction) {limit : Option Duration} (h : limit ≠ none) :
    ∃ answer after, reaction.answer limit = some (answer, after) := by
  obtain ⟨bound, rfl⟩ := Option.ne_none_iff_exists'.1 h
  unfold Reaction.answer
  cases reaction.duration? with
  | none => exact ⟨_, _, rfl⟩
  | some duration =>
    by_cases hin : inTime (some bound) duration = true
    · simp only [hin, if_true]
      cases reaction <;> exact ⟨_, _, rfl⟩
    · simp only [hin]
      exact ⟨_, _, rfl⟩

/-- A talk ends if there is a limit to the wait for each of its calls, by induction on the talk. -/
theorem Only.exists_value (h : t.Only fun ask => ask.channel.limit ≠ none) :
    ∃ value, (t.run node made).value = some value := by
  induction t generalizing made with
  | done value => exact ⟨value, rfl⟩
  | ask a next ih =>
    obtain ⟨answer, after, hanswer⟩ := exists_answer (node made a) h.1
    rw [(run_of_answer next hanswer).1]
    exact ih answer (h.2 answer)

/-! ## Talks that are alike -/

section Alike

variable {γ δ : Type} {R : α → γ → Prop} {S : β → δ → Prop} {t' : Talk γ} {g : γ → Talk δ}

/-- Whether two talks make the same calls for all answers and end with related values. -/
inductive Alike (R : α → γ → Prop) : Talk α → Talk γ → Prop where
  | done {value : α} {value' : γ} (h : R value value') : Alike R (.done value) (.done value')
  | ask (a : Ask) {next : Answer → Talk α} {next' : Answer → Talk γ}
    (h : ∀ answer, Alike R (next answer) (next' answer)) : Alike R (.ask a next) (.ask a next')

theorem Alike.refl {R : α → α → Prop} (h : ∀ value, R value value) (t : Talk α) : Alike R t t := by
  induction t with
  | done value => exact .done (h value)
  | ask a next ih => exact .ask a ih

theorem Alike.pure {value : α} {value' : γ} (h : R value value') :
    Alike R (pure value : Talk α) (pure value' : Talk γ) := .done h

theorem Alike.bind (h : Alike R t t') (hf : ∀ value value', R value value' →
    Alike S (f value) (g value')) : Alike S (t >>= f) (t' >>= g) := by
  induction h with
  | done hvalue => exact hf _ _ hvalue
  | ask a _ ih => exact .ask a ih

/-- Talks that are alike run alike against any node, by induction on what makes them alike. -/
theorem Alike.run (h : Alike R t t') (node : Node) (made : Nat) :
    (t.run node made).calls = (t'.run node made).calls ∧
      (t.run node made).elapsed = (t'.run node made).elapsed ∧
      Option.Rel R (t.run node made).value (t'.run node made).value := by
  induction h generalizing made with
  | done hvalue => exact ⟨rfl, rfl, .some hvalue⟩
  | ask a _ ih =>
    cases hanswer : (node made a).answer a.channel.limit with
    | none =>
      rw [run_of_no_answer hanswer, run_of_no_answer hanswer]
      exact ⟨rfl, rfl, .none⟩
    | some given =>
      obtain ⟨answer, after⟩ := given
      obtain ⟨hcalls, helapsed, hvalue⟩ := ih answer (made + 1)
      simp only [Talk.run, hanswer]
      exact ⟨by rw [hcalls], by rw [helapsed], hvalue⟩

end Alike

end AssetOracle.Rpc.Talk
