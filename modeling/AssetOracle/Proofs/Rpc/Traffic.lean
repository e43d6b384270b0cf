import AssetOracle.Proofs.History
import AssetOracle.Proofs.Rpc.Numbers
import AssetOracle.Proofs.Rpc.Talk
import AssetOracle.Rpc.Client
import AssetOracle.Rpc.Traffic

/-!
# Numbers in traffic

Whatever the order in which operations take their steps, every call gets one number and is sent
once under it, and the numbers of the calls are those that they would get one after the other. The
invariant of a run (`Traffic.Sound`) is kept by each event (`Sound.step`).
-/

namespace AssetOracle.Rpc

/-! ## The calls of an operation -/

/-- Whether a talk goes on with a rest after some calls, for some answers to them. -/
inductive Talk.After {α : Type} (t : Talk α) : List Ask → Talk α → Prop where
  | start : After t [] t
  | next {made : List Ask} {ask : Ask} {next : Answer → Talk α}
      (h : After t made (.ask ask next)) (answer : Answer) : After t (made ++ [ask]) (next answer)

namespace Talk

variable {α : Type} {t rest : Talk α} {made : List Ask} {A : Ask → Prop}

theorem After.only (h : t.After made rest) (honly : t.Only A) :
    rest.Only A ∧ ∀ ask ∈ made, A ask := by
  induction h with
  | start => exact ⟨honly, fun ask hask => by cases hask⟩
  | next h answer ih =>
    obtain ⟨⟨hask, hnext⟩, hmade⟩ := ih
    refine ⟨hnext answer, fun other hother => ?_⟩
    rcases List.mem_append.1 hother with hother | hother
    · exact hmade other hother
    · rwa [List.mem_singleton.1 hother]

theorem Only.silent (h : t.Only A) : t.silent.Only A := .bind h fun _ => .pure _

theorem After.of_ask {a : Ask} {value : Answer → α}
    (h : (Talk.ask a fun answer => .done (value answer)).After made rest) :
    made = [] ∧ rest = .ask a (fun answer => .done (value answer)) ∨
      made = [a] ∧ ∃ answer, rest = .done (value answer) := by
  induction h with
  | start => exact .inl ⟨rfl, rfl⟩
  | next h answer ih =>
    rcases ih with ⟨rfl, hrest⟩ | ⟨-, given, hrest⟩
    · obtain ⟨rfl, rfl⟩ := Talk.ask.inj hrest
      exact .inr ⟨rfl, answer, rfl⟩
    · cases hrest

/-- A call that has ended has been made once, whatever the answer. -/
theorem made_of_call {channel : Channel} {method : String} {params : List Json}
    {decoder : Decoder α} {value : Except Failure α}
    (h : (Rpc.call channel method params decoder).After made (.done value)) :
    made = [⟨channel, ⟨method, params⟩⟩] := by
  rcases After.of_ask (a := ⟨channel, ⟨method, params⟩⟩) h with ⟨-, hrest⟩ | ⟨hmade, -⟩
  · cases hrest
  · exact hmade

end Talk

namespace Traffic

variable {ι : Type} {talkOf : ι → Talk Unit} {t t' : Traffic ι} {event : Event ι}
  {history : List (Event ι)} {thread place : Nat} {operation : ι} {stage old : Stage}

/-! ## The rules of a step -/

/-- The rules of a step, one for each event. -/
inductive Rule (talkOf : ι → Talk Unit) (t : Traffic ι) : Event ι → Traffic ι → Prop where
  | began (operation : ι) :
    Rule talkOf t (.began operation)
      { t with threads := t.threads ++ [⟨operation, .ready (talkOf operation)⟩] }
  | numbered {thread : Nat} {operation : ι} {ask : Ask} {next : Answer → Talk Unit}
      (hthread : t.threads[thread]? = some ⟨operation, .ready (.ask ask next)⟩) :
    Rule talkOf t (.numbered thread) (t.number thread operation ask next)
  | sent {thread : Nat} {operation : ι} {ask : Ask} {id : UInt64} {next : Answer → Talk Unit}
      (hthread : t.threads[thread]? = some ⟨operation, .numbered ask id next⟩) :
    Rule talkOf t (.sent thread)
      { t.move thread operation (.waiting next) with
        sent := t.sent ++ [⟨thread, operation, ask, id⟩] }
  | answered {thread : Nat} {operation : ι} {next : Answer → Talk Unit}
      (hthread : t.threads[thread]? = some ⟨operation, .waiting next⟩) (answer : Answer) :
    Rule talkOf t (.answered thread answer) (t.move thread operation (.ready (next answer)))
  | abandoned {thread : Nat} {operation : ι} {stage : Stage}
      (hthread : t.threads[thread]? = some ⟨operation, stage⟩)
      (hstage : (∃ talk, stage = .ready talk) ∨ ∃ next, stage = .waiting next) :
    Rule talkOf t (.abandoned thread) (t.move thread operation .abandoned)

theorem rule_of_step (h : t.step talkOf event = some t') : Rule talkOf t event t' := by
  cases event with
  | began operation =>
    obtain rfl := Option.some.inj h
    exact .began operation
  | numbered thread =>
    simp only [step] at h
    split at h
    · rename_i hthread
      obtain rfl := Option.some.inj h
      exact .numbered hthread
    · cases h
  | sent thread =>
    simp only [step] at h
    split at h
    · rename_i hthread
      obtain rfl := Option.some.inj h
      exact .sent hthread
    · cases h
  | answered thread answer =>
    simp only [step] at h
    split at h
    · rename_i hthread
      obtain rfl := Option.some.inj h
      exact .answered hthread answer
    · cases h
  | abandoned thread =>
    simp only [step] at h
    split at h
    · rename_i hthread
      obtain rfl := Option.some.inj h
      exact .abandoned hthread (.inl ⟨_, rfl⟩)
    · rename_i hthread
      obtain rfl := Option.some.inj h
      exact .abandoned hthread (.inr ⟨_, rfl⟩)
    · cases h

theorem threads_move (hthread : t.threads[thread]? = some ⟨operation, old⟩) (place : Nat) :
    (t.move thread operation stage).threads[place]? =
      if thread = place then some ⟨operation, stage⟩ else t.threads[place]? := by
  obtain ⟨hlt, -⟩ := List.getElem?_eq_some_iff.1 hthread
  rw [move, List.getElem?_set, if_pos hlt]

/-- The calls that are pending before a thread, of the thread, and after it. -/
theorem pending_eq_append {before after : List (Thread ι)}
    (hthreads : t.threads = before ++ ⟨operation, stage⟩ :: after) :
    t.pending = before.zipIdx.filterMap (fun (thread, place) => thread.pending? place) ++
      (Thread.pending? ⟨operation, stage⟩ before.length).toList ++
      (after.zipIdx (before.length + 1)).filterMap
        (fun (thread, place) => thread.pending? place) := by
  rw [pending, hthreads, List.zipIdx_append, List.zipIdx_cons, List.filterMap_append,
    List.append_assoc]
  cases hcall : Thread.pending? ⟨operation, stage⟩ before.length <;> simp [hcall]

/-- When a thread moves, only its own call becomes pending, or is no longer. -/
theorem pending_move (hthread : t.threads[thread]? = some ⟨operation, old⟩) (stage : Stage) :
    ((t.move thread operation stage).pending ++
        (Thread.pending? ⟨operation, old⟩ thread).toList).Perm
      (t.pending ++ (Thread.pending? ⟨operation, stage⟩ thread).toList) := by
  classical
  obtain ⟨hlt, hget⟩ := List.getElem?_eq_some_iff.1 hthread
  have hlength : (t.threads.take thread).length = thread :=
    List.length_take_of_le (Nat.le_of_lt hlt)
  have hthreads : t.threads =
      t.threads.take thread ++ ⟨operation, old⟩ :: t.threads.drop (thread + 1) := by
    rw [← hget, ← List.drop_eq_getElem_cons, List.take_append_drop]
  have hmove : (t.move thread operation stage).threads =
      t.threads.take thread ++ ⟨operation, stage⟩ :: t.threads.drop (thread + 1) := by
    rw [move, List.set_eq_take_append_cons_drop, if_pos hlt]
  rw [pending_eq_append hthreads, pending_eq_append hmove, hlength]
  refine List.perm_iff_count.2 fun c => ?_
  simp only [List.count_append]
  omega

/-! ## The invariant -/

/-- Whether a thread at a stage has made these calls of a talk. -/
def Stage.Follows (talk : Talk Unit) (made : List Ask) : Stage → Prop
  | .ready rest => talk.After made rest
  | .numbered _ _ next => ∀ answer, talk.After made (next answer)
  | .waiting next => ∀ answer, talk.After made (next answer)
  | .abandoned => ∃ rest, talk.After made rest

theorem Stage.Follows.exists_after {talk : Talk Unit} {made : List Ask}
    (h : stage.Follows talk made) : ∃ rest, talk.After made rest := by
  cases stage with
  | ready rest => exact ⟨rest, h⟩
  | numbered ask id next => exact ⟨_, h .late⟩
  | waiting next => exact ⟨_, h .late⟩
  | abandoned => exact h

/-- The calls for which a thread has taken numbers. -/
def madeBy (t : Traffic ι) (thread : Nat) : List Ask :=
  (t.numbered.filter (·.thread = thread)).map (·.ask)

/-- What is known of traffic after a history: every call that has a number belongs to a thread, the
    calls of a thread are those of its talk, the counters are as far as the calls, the calls are
    numbered as if one were made after the other, and all calls with numbers have been sent once
    but those that are pending. -/
structure Sound (talkOf : ι → Talk Unit) (history : List (Event ι)) (t : Traffic ι) : Prop where
  began : ∀ thread ∈ t.threads, .began thread.operation ∈ history
  owned : ∀ c ∈ t.numbered, ∃ stage, t.threads[c.thread]? = some ⟨c.operation, stage⟩
  follows : ∀ (place : Nat) (thread : Thread ι), t.threads[place]? = some thread →
    thread.stage.Follows (talkOf thread.operation) (t.madeBy place)
  taken_eq : ∀ number, t.taken number =
    UInt64.ofNat (t.numbered.countP (·.ask.channel.number = number))
  requests_eq : t.numbered.length < UInt64.size →
    t.numbered.map Numbered.request = stamp .start (t.numbered.map (·.ask))
  sent_perm : (t.sent ++ t.pending).Perm t.numbered

theorem firstId_le (protocol : Protocol) : protocol.firstId ≤ 1 := by
  cases protocol <;> decide

theorem madeBy_number {ask : Ask} {next : Answer → Talk Unit} :
    (t.number thread operation ask next).madeBy place =
      t.madeBy place ++ if thread = place then [ask] else [] := by
  unfold madeBy number
  rw [List.filter_append, List.map_append]
  by_cases hplace : thread = place <;> simp [hplace]

namespace Sound

theorem start : Sound talkOf [] {} where
  began := by
    intro thread hthread
    cases hthread
  owned := by
    intro c hc
    cases hc
  follows := by
    intro place thread hthread
    cases hthread
  taken_eq := fun _ => rfl
  requests_eq := fun _ => rfl
  sent_perm := .refl _

theorem began_move (h : Sound talkOf history t)
    (hthread : t.threads[thread]? = some ⟨operation, old⟩) :
    ∀ other ∈ (t.move thread operation stage).threads,
      .began other.operation ∈ history ++ [event] := by
  intro other hother
  refine List.mem_append_left _ ?_
  rcases List.mem_or_eq_of_mem_set hother with hother | rfl
  · exact h.began other hother
  · exact h.began ⟨operation, old⟩ (List.mem_of_getElem? hthread)

theorem owned_move (h : Sound talkOf history t)
    (hthread : t.threads[thread]? = some ⟨operation, old⟩) :
    ∀ c ∈ t.numbered, ∃ new,
      (t.move thread operation stage).threads[c.thread]? = some ⟨c.operation, new⟩ := by
  intro c hc
  obtain ⟨own, hown⟩ := h.owned c hc
  rw [threads_move hthread]
  by_cases hplace : thread = c.thread
  · rw [← hplace, hthread] at hown
    obtain ⟨rfl, -⟩ := Thread.mk.inj (Option.some.inj hown)
    exact ⟨stage, if_pos hplace⟩
  · exact ⟨own, by rw [if_neg hplace, hown]⟩

/-- If a thread has moved as its talk says, the others have done so too. -/
theorem follows_move (h : Sound talkOf history t)
    (hthread : t.threads[thread]? = some ⟨operation, old⟩)
    (hstage : stage.Follows (talkOf operation) (t.madeBy thread)) :
    ∀ (place : Nat) (other : Thread ι), (t.move thread operation stage).threads[place]? = some other →
      other.stage.Follows (talkOf other.operation) (t.madeBy place) := by
  intro place other hother
  rw [threads_move hthread] at hother
  by_cases hplace : thread = place
  · obtain rfl := hplace
    rw [if_pos rfl] at hother
    obtain rfl := Option.some.inj hother
    exact hstage
  · rw [if_neg hplace] at hother
    exact h.follows place other hother

/-- A thread that begins has made no call. -/
theorem madeBy_length (h : Sound talkOf history t) : t.madeBy t.threads.length = [] := by
  unfold madeBy
  rw [List.map_eq_nil_iff, List.filter_eq_nil_iff]
  intro c hc
  obtain ⟨stage, hthread⟩ := h.owned c hc
  obtain ⟨hlt, -⟩ := List.getElem?_eq_some_iff.1 hthread
  simpa using Nat.ne_of_lt hlt

theorem begin (h : Sound talkOf history t) (operation : ι) :
    Sound talkOf (history ++ [.began operation])
      { t with threads := t.threads ++ [⟨operation, .ready (talkOf operation)⟩] } := by
  refine ⟨?_, ?_, ?_, h.taken_eq, h.requests_eq, ?_⟩
  · intro thread hthread
    rcases List.mem_append.1 hthread with hthread | hthread
    · exact List.mem_append_left _ (h.began thread hthread)
    · rw [List.mem_singleton.1 hthread]
      exact List.mem_append_right _ List.mem_cons_self
  · intro c hc
    obtain ⟨stage, hthread⟩ := h.owned c hc
    obtain ⟨hlt, -⟩ := List.getElem?_eq_some_iff.1 hthread
    exact ⟨stage, (List.getElem?_append_left hlt).trans hthread⟩
  · intro place thread hthread
    rcases Nat.lt_trichotomy place t.threads.length with hlt | rfl | hlt
    · rw [List.getElem?_append_left hlt] at hthread
      exact h.follows place thread hthread
    · rw [List.getElem?_concat_length] at hthread
      obtain rfl := Option.some.inj hthread
      change (talkOf operation).After (t.madeBy _) (talkOf operation)
      rw [h.madeBy_length]
      exact .start
    · rw [List.getElem?_eq_none (by simpa using Nat.succ_le_of_lt hlt)] at hthread
      cases hthread
  · have hthreads : ({ t with threads := t.threads ++ [⟨operation, .ready (talkOf operation)⟩] } :
        Traffic ι).threads = t.threads ++ ⟨operation, .ready (talkOf operation)⟩ :: [] := rfl
    rw [pending_eq_append hthreads]
    simpa [Thread.pending?, pending] using h.sent_perm

/-- Taking a number is the only step that counts. -/
theorem number (h : Sound talkOf history t) {ask : Ask} {next : Answer → Talk Unit}
    (hthread : t.threads[thread]? = some ⟨operation, .ready (.ask ask next)⟩) :
    Sound talkOf (history ++ [.numbered thread]) (t.number thread operation ask next) := by
  have hfresh : t.fresh ask.channel = UInt64.ofNat (ask.channel.protocol.firstId +
      t.numbered.countP (·.ask.channel.number = ask.channel.number)) := by
    rw [fresh, h.taken_eq, UInt64.ofNat_add]
  refine ⟨h.began_move hthread, ?_, ?_, ?_, ?_, ?_⟩
  · intro c hc
    rcases List.mem_append.1 hc with hc | hc
    · exact h.owned_move hthread c hc
    · obtain rfl := List.mem_singleton.1 hc
      exact ⟨_, (threads_move hthread thread).trans (if_pos rfl)⟩
  · intro place other hother
    rw [madeBy_number]
    have hmade := h.follows thread _ hthread
    by_cases hplace : thread = place
    · obtain rfl := hplace
      have hown := (threads_move hthread thread).symm.trans hother
      rw [if_pos rfl] at hown ⊢
      obtain rfl := Option.some.inj hown
      exact fun answer => .next hmade answer
    · have hold := (threads_move hthread place).symm.trans hother
      rw [if_neg hplace] at hold
      rw [if_neg hplace, List.append_nil]
      exact h.follows place other hold
  · intro number
    change (if number = ask.channel.number then t.taken number + 1 else t.taken number) = _
    rw [Traffic.number, List.countP_append, UInt64.ofNat_add, h.taken_eq]
    by_cases hnumber : number = ask.channel.number
    · simp [hnumber]
    · simp [hnumber, Ne.symm hnumber]
  · intro hfew
    have hlength : t.numbered.length + 1 < UInt64.size := by
      rwa [Traffic.number, List.length_append] at hfew
    have hle := List.countP_le_length (p := fun c : Numbered ι =>
      c.ask.channel.number = ask.channel.number) (l := t.numbered)
    have hfirst := firstId_le ask.channel.protocol
    have hid : (t.fresh ask.channel).toNat = ask.channel.protocol.firstId +
        t.numbered.countP (·.ask.channel.number = ask.channel.number) := by
      rw [hfresh]
      exact UInt64.toNat_ofNat_of_lt' (by omega)
    rw [Traffic.number, List.map_append, List.map_append, List.map_singleton, List.map_singleton,
      stamp_append_singleton, h.requests_eq (by omega), List.countP_map, Numbered.request, hid,
      Counters.start, Nat.zero_add]
    rfl
  · have hpending :
        (t.move thread operation (.numbered ask (t.fresh ask.channel) next)).pending.Perm
          (t.pending ++ [⟨thread, operation, ask, t.fresh ask.channel⟩]) := by
      simpa [Thread.pending?] using
        pending_move hthread (.numbered ask (t.fresh ask.channel) next)
    have hall := hpending.append_left t.sent
    rw [← List.append_assoc] at hall
    exact hall.trans (h.sent_perm.append_right _)

/-- The steps that take no number move a thread on. -/
theorem move (h : Sound talkOf history t) {sent : List (Numbered ι)}
    (hthread : t.threads[thread]? = some ⟨operation, old⟩)
    (hstage : stage.Follows (talkOf operation) (t.madeBy thread))
    (hsent : (sent ++ (t.move thread operation stage).pending).Perm t.numbered) :
    Sound talkOf (history ++ [event]) { t.move thread operation stage with sent } where
  began := h.began_move hthread
  owned := h.owned_move hthread
  follows := h.follows_move hthread hstage
  taken_eq := h.taken_eq
  requests_eq := h.requests_eq
  sent_perm := hsent

theorem step (h : Sound talkOf history t) (hstep : t.step talkOf event = some t') :
    Sound talkOf (history ++ [event]) t' := by
  cases rule_of_step hstep with
  | began operation => exact h.begin operation
  | numbered hthread => exact h.number hthread
  | @sent thread operation ask id next hthread =>
    refine h.move hthread (h.follows _ _ hthread) ?_
    have hpending : ((t.move thread operation (.waiting next)).pending ++
        [(⟨thread, operation, ask, id⟩ : Numbered ι)]).Perm t.pending := by
      simpa [Thread.pending?] using pending_move hthread (.waiting next)
    rw [List.append_assoc]
    exact ((List.perm_append_comm.trans hpending).append_left t.sent).trans h.sent_perm
  | @answered thread operation next hthread answer =>
    refine h.move hthread (h.follows _ _ hthread answer) ?_
    have hpending : (t.move thread operation (.ready (next answer))).pending.Perm t.pending := by
      simpa [Thread.pending?] using pending_move hthread (.ready (next answer))
    exact (hpending.append_left t.sent).trans h.sent_perm
  | @abandoned thread operation stage hthread hstage =>
    refine h.move hthread (h.follows _ _ hthread).exists_after ?_
    have hpending : (t.move thread operation .abandoned).pending.Perm t.pending := by
      rcases hstage with ⟨talk, rfl⟩ | ⟨next, rfl⟩ <;>
        simpa [Thread.pending?] using pending_move hthread .abandoned
    exact (hpending.append_left t.sent).trans h.sent_perm

theorem of_run (hrun : ({} : Traffic ι).run talkOf history = some t) :
    Sound talkOf history t :=
  History.induction start (fun h hstep => h.step hstep) hrun

end Sound

end Traffic

end AssetOracle.Rpc
