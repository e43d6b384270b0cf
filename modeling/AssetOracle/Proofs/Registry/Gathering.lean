import Mathlib.Data.List.Induction
import Mathlib.Data.List.Nodup
import AssetOracle.Proofs.History
import AssetOracle.Proofs.Keyed
import AssetOracle.Registry.Gathering

/-!
# Listings in progress

The invariant of a run (`Follows`) ties a listing to the registry that it was started on and to
the history so far: the slots and the tasks are those of the entries at the start, a task has come
to the phases that the history names, in their order, and the clients that were asked are those of
the tasks that have run, each once. Each event keeps it (`Follows.step`). The invariant also says
which histories there are: every one in which no task ends before it has asked, or does either
twice (`run_isSome_iff`).
-/

namespace AssetOracle.Gathering

/-- The phases that a task has come to when it is in a phase. -/
def Phase.path : Phase → List Phase
  | .spawned => []
  | .asking => [.asking]
  | .ended ending => [.asking, .ended ending]

/-- The state that a task brings. -/
def Phase.state? : Phase → Option ChainState
  | .ended ending => Listing.stateOf ending
  | _ => none

/-- The phase that the task of a key comes to by an event. -/
def entered (key : String) : Event → Option Phase
  | .registered _ _ => none
  | .asked k => if k = key then some .asking else none
  | .ended k ending => if k = key then some (.ended ending) else none

/-- The phases that the task of a key comes to by a history. -/
def phases (key : String) (history : List Event) : List Phase := history.filterMap (entered key)

/-- The state that a history reports for a key. -/
def reported (key : String) (history : List Event) : Option ChainState :=
  (phases key history).findSome? Phase.state?

/-- The rules of a step, one for each event. -/
inductive Rule (g : Gathering) : Event → Gathering → Prop where
  | registered (id : String) (client : Client) :
    Rule g (.registered id client) { g with registry := g.registry.register id client }
  | asked (t : Task) (ht : t ∈ g.tasks) (hphase : t.phase = .spawned) :
    Rule g (.asked t.key) { g with
      tasks := g.tasks.map (Task.enter t.key .asking)
      calls := g.calls ++ [t.entry] }
  | ended (t : Task) (ht : t ∈ g.tasks) (hphase : t.phase = .asking)
      (ending : Ending (NodeResult ChainState)) :
    Rule g (.ended t.key ending) { g with
      tasks := g.tasks.map (Task.enter t.key (.ended ending)) }

variable {r : Registry Client} {enrich : Bool} {history : List Event} {event : Event}
  {key : String} {phase : Phase} {g g' : Gathering}

theorem find?_key {tasks : List Task} {t : Task} (h : tasks.find? (·.key = key) = some t) :
    t ∈ tasks ∧ t.key = key :=
  ⟨List.mem_of_find?_eq_some h, by simpa using List.find?_some h⟩

/-- A step is made by one of the rules. -/
theorem rule_of_step (h : g.step event = some g') : Rule g event g' := by
  cases event with
  | registered id client =>
    obtain rfl := Option.some.inj h
    exact .registered id client
  | asked key =>
    simp only [step] at h
    split at h
    · rename_i k client hfind
      obtain ⟨hmem, hkey⟩ := find?_key hfind
      obtain rfl := Option.some.inj h
      obtain rfl : k = key := hkey
      exact .asked ⟨k, client, .spawned⟩ hmem rfl
    · cases h
  | ended key ending =>
    simp only [step] at h
    split at h
    · rename_i k client hfind
      obtain ⟨hmem, hkey⟩ := find?_key hfind
      obtain rfl := Option.some.inj h
      obtain rfl : k = key := hkey
      exact .ended ⟨k, client, .asking⟩ hmem rfl ending
    · cases h

theorem run_append_singleton :
    g.run (history ++ [event]) = (g.run history).bind (·.step event) :=
  History.foldlM_append_singleton

/-! ## The phases of a task -/

theorem phases_append_singleton :
    phases key (history ++ [event]) = phases key history ++ (entered key event).toList := by
  unfold phases
  rw [List.filterMap_append]
  cases h : entered key event <;> simp [h]

theorem ended_mem_phases {ending : Ending (NodeResult ChainState)} :
    .ended ending ∈ phases key history ↔ .ended key ending ∈ history := by
  unfold phases
  rw [List.mem_filterMap]
  constructor
  · rintro ⟨event, hmem, hentered⟩
    cases event with
    | registered id client => cases hentered
    | asked k =>
      rw [entered] at hentered
      split at hentered <;> cases hentered
    | ended k other =>
      rw [entered] at hentered
      split at hentered
      · rename_i hkey
        cases hentered
        rwa [← hkey]
      · cases hentered
  · intro hmem
    exact ⟨_, hmem, by simp [entered]⟩

theorem Phase.ended_mem_path {ending : Ending (NodeResult ChainState)} :
    .ended ending ∈ phase.path ↔ phase = .ended ending := by
  cases phase <;> simp [Phase.path, eq_comm]

theorem Phase.findSome?_path : phase.path.findSome? Phase.state? = phase.state? := by
  cases phase with
  | spawned => rfl
  | asking => rfl
  | ended ending =>
    cases h : Listing.stateOf ending <;> simp [Phase.path, Phase.state?, List.findSome?, h]

theorem Phase.path_eq_append_asking {path : List Phase} (h : phase.path = path ++ [.asking]) :
    path = [] := by
  cases phase with
  | spawned => simp [Phase.path] at h
  | asking =>
    have hinit : [] ++ [Phase.asking] = path ++ [.asking] := h
    exact (List.append_singleton_inj.1 hinit).1.symm
  | ended ending =>
    have hlast : [.asking] ++ [Phase.ended ending] = path ++ [.asking] := h
    cases (List.append_singleton_inj.1 hlast).2

theorem Phase.path_eq_append_ended {path : List Phase} {ending : Ending (NodeResult ChainState)}
    (h : phase.path = path ++ [.ended ending]) : path = [.asking] := by
  cases phase with
  | spawned => simp [Phase.path] at h
  | asking =>
    have hlast : [] ++ [Phase.asking] = path ++ [.ended ending] := h
    cases (List.append_singleton_inj.1 hlast).2
  | ended other =>
    have hinit : [.asking] ++ [Phase.ended other] = path ++ [.ended ending] := h
    exact (List.append_singleton_inj.1 hinit).1.symm

theorem state?_eq_some_iff {state : ChainState} :
    phase.state? = some state ↔ phase = .ended (.returned (.ok state)) := by
  cases phase with
  | spawned => simp [Phase.state?]
  | asking => simp [Phase.state?]
  | ended ending =>
    cases ending with
    | aborted => simp [Phase.state?, Listing.stateOf]
    | returned result => cases result <;> simp [Phase.state?, Listing.stateOf]

/-- If the task of a key is in a phase, the state that is reported for the key is what it
    brings. -/
theorem reported_eq_some_iff {state : ChainState} (hpath : phases key history = phase.path) :
    reported key history = some state ↔ .ended key (.returned (.ok state)) ∈ history := by
  unfold reported
  rw [hpath, Phase.findSome?_path, state?_eq_some_iff, ← ended_mem_phases, hpath,
    Phase.ended_mem_path]

theorem reported_of_ended {ending : Ending (NodeResult ChainState)}
    (hpath : phases key history = phase.path) (hended : .ended key ending ∈ history) :
    reported key history = Listing.stateOf ending := by
  rw [← ended_mem_phases, hpath, Phase.ended_mem_path] at hended
  rw [reported, hpath, Phase.findSome?_path, hended, Phase.state?]

/-! ## The invariant -/

/-- Whether a listing has come about by a history on a registry. -/
structure Follows (r : Registry Client) (enrich : Bool) (history : List Event) (g : Gathering) :
    Prop where
  slots_eq : g.slots = r.keys.map .bare
  entries_eq : g.tasks.map Task.entry = if enrich then r.entries else []
  phases_eq : ∀ t ∈ g.tasks, phases t.key history = t.phase.path
  phases_eq_nil : ∀ key, (∀ t ∈ g.tasks, t.key ≠ key) → phases key history = []
  called_iff : ∀ t ∈ g.tasks, t.entry ∈ g.calls ↔ t.phase ≠ .spawned
  task_of_call : ∀ call ∈ g.calls, ∃ t ∈ g.tasks, t.entry = call
  calls_nodup : g.calls.Nodup

theorem phase_of_mem_start {t : Task} (ht : t ∈ (start r enrich).tasks) : t.phase = .spawned := by
  cases enrich with
  | false => simp [start] at ht
  | true =>
    obtain ⟨e, -, rfl⟩ := List.mem_map.1 ht
    rfl

theorem entry_enter (t : Task) : (t.enter key phase).entry = t.entry := by
  simp [Task.entry, Task.key_enter, Task.client_enter]

theorem map_entry_enter (tasks : List Task) :
    (tasks.map (Task.enter key phase)).map Task.entry = tasks.map Task.entry := by
  rw [List.map_map]
  exact List.map_congr_left fun t _ => entry_enter t

namespace Follows

theorem start (r : Registry Client) (enrich : Bool) : Follows r enrich [] (start r enrich) where
  slots_eq := rfl
  entries_eq := by
    cases enrich with
    | false => rfl
    | true => simp [Gathering.start, Task.ofEntry, Task.entry, Function.comp_def]
  phases_eq := by
    intro t ht
    rw [phase_of_mem_start ht]
    rfl
  phases_eq_nil := by
    intro key _
    rfl
  called_iff := by
    intro t ht
    simp [phase_of_mem_start ht, Gathering.start]
  task_of_call := by simp [Gathering.start]
  calls_nodup := by simp [Gathering.start]

theorem keys_eq (h : Follows r enrich history g) :
    g.tasks.map (·.key) = if enrich then r.keys else [] := by
  have hmap : g.tasks.map (·.key) = (g.tasks.map Task.entry).map (·.1) := by
    rw [List.map_map]
    rfl
  rw [hmap, h.entries_eq]
  cases enrich <;> rfl

/-- No two tasks have one key. -/
theorem nodup_keys (h : Follows r enrich history g) : (g.tasks.map (·.key)).Nodup := by
  rw [h.keys_eq]
  cases enrich with
  | false => exact List.nodup_nil
  | true => exact Keyed.nodup_keys r.ascending

theorem eq_of_key_eq (h : Follows r enrich history g) {s t : Task} (hs : s ∈ g.tasks)
    (ht : t ∈ g.tasks) (hkey : s.key = t.key) : s = t :=
  List.inj_on_of_nodup_map h.nodup_keys hs ht hkey

theorem entry_eq_iff (h : Follows r enrich history g) {s t : Task} (hs : s ∈ g.tasks)
    (ht : t ∈ g.tasks) : s.entry = t.entry ↔ s.key = t.key := by
  refine ⟨fun hentry => congrArg Prod.fst hentry, fun hkey => ?_⟩
  rw [h.eq_of_key_eq hs ht hkey]

/-- When one task comes to the next phase, the phases of all tasks are again those that the
    history names. -/
theorem phases_eq_enter (h : Follows r enrich history g) {t : Task} (ht : t ∈ g.tasks)
    (hpath : phase.path = t.phase.path ++ [phase])
    (hentered : ∀ key, entered key event = if t.key = key then some phase else none) :
    ∀ s ∈ g.tasks.map (Task.enter t.key phase),
      phases s.key (history ++ [event]) = s.phase.path := by
  intro s' hs'
  obtain ⟨s, hs, rfl⟩ := List.mem_map.1 hs'
  rw [Task.key_enter, Task.phase_enter, phases_append_singleton, h.phases_eq s hs, hentered]
  by_cases hkey : s.key = t.key
  · have heq := h.eq_of_key_eq hs ht hkey
    rw [if_pos hkey, if_pos hkey.symm, heq, hpath]
    rfl
  · rw [if_neg hkey, if_neg (Ne.symm hkey)]
    exact List.append_nil _

theorem phases_eq_nil_enter (h : Follows r enrich history g) {t : Task} (ht : t ∈ g.tasks)
    (hentered : ∀ key, entered key event = if t.key = key then some phase else none) :
    ∀ key, (∀ s ∈ g.tasks.map (Task.enter t.key phase), s.key ≠ key) →
      phases key (history ++ [event]) = [] := by
  intro key hnone
  have hold : ∀ s ∈ g.tasks, s.key ≠ key := fun s hs => by
    have hnew := hnone _ (List.mem_map_of_mem hs)
    rwa [Task.key_enter] at hnew
  rw [phases_append_singleton, h.phases_eq_nil key hold, hentered, if_neg (hold t ht)]
  rfl

theorem task_of_call_enter (h : Follows r enrich history g) :
    ∀ call ∈ g.calls, ∃ s ∈ g.tasks.map (Task.enter key phase), s.entry = call := by
  intro call hcall
  obtain ⟨s, hs, rfl⟩ := h.task_of_call call hcall
  exact ⟨_, List.mem_map_of_mem hs, entry_enter s⟩

theorem step (h : Follows r enrich history g) (hstep : g.step event = some g') :
    Follows r enrich (history ++ [event]) g' := by
  cases rule_of_step hstep with
  | registered id client =>
    have hphases (key) : phases key (history ++ [.registered id client]) = phases key history := by
      rw [phases_append_singleton]
      exact List.append_nil _
    exact
      { slots_eq := h.slots_eq
        entries_eq := h.entries_eq
        phases_eq := fun t ht => (hphases t.key).trans (h.phases_eq t ht)
        phases_eq_nil := fun key hnone => (hphases key).trans (h.phases_eq_nil key hnone)
        called_iff := h.called_iff
        task_of_call := h.task_of_call
        calls_nodup := h.calls_nodup }
  | asked t ht hphase =>
    have hpath : Phase.asking.path = t.phase.path ++ [.asking] := by rw [hphase]; rfl
    have hentered (key) : entered key (.asked t.key) =
        if t.key = key then some .asking else none := rfl
    refine ⟨h.slots_eq, ?_, h.phases_eq_enter ht hpath hentered,
      h.phases_eq_nil_enter ht hentered, ?_, ?_, ?_⟩
    · rw [map_entry_enter]
      exact h.entries_eq
    · intro s' hs'
      obtain ⟨s, hs, rfl⟩ := List.mem_map.1 hs'
      have hold := h.called_iff s hs
      rw [Task.phase_enter, entry_enter, List.mem_append, List.mem_singleton,
        h.entry_eq_iff hs ht]
      by_cases hkey : s.key = t.key
      · simp [hkey]
      · simpa [hkey] using hold
    · intro call hcall
      rcases List.mem_append.1 hcall with hcall | hcall
      · exact h.task_of_call_enter call hcall
      · obtain rfl := List.mem_singleton.1 hcall
        exact ⟨_, List.mem_map_of_mem ht, entry_enter t⟩
    · -- A task that has not run yet has not asked.
      have hnot : t.entry ∉ g.calls := fun hmem => (h.called_iff t ht).1 hmem hphase
      refine List.nodup_append.2 ⟨h.calls_nodup, List.nodup_singleton _, ?_⟩
      rintro call hcall other hother rfl
      obtain rfl := List.mem_singleton.1 hother
      exact hnot hcall
  | ended t ht hphase ending =>
    have hpath : (Phase.ended ending).path = t.phase.path ++ [.ended ending] := by
      rw [hphase]; rfl
    have hentered (key) : entered key (.ended t.key ending) =
        if t.key = key then some (.ended ending) else none := rfl
    refine ⟨h.slots_eq, ?_, h.phases_eq_enter ht hpath hentered,
      h.phases_eq_nil_enter ht hentered, ?_, h.task_of_call_enter, h.calls_nodup⟩
    · rw [map_entry_enter]
      exact h.entries_eq
    · intro s' hs'
      obtain ⟨s, hs, rfl⟩ := List.mem_map.1 hs'
      have hold := h.called_iff s hs
      rw [Task.phase_enter, entry_enter]
      by_cases hkey : s.key = t.key
      · rw [h.eq_of_key_eq hs ht hkey, hphase] at hold
        rw [h.eq_of_key_eq hs ht hkey]
        simp [hold]
      · simpa [hkey] using hold

theorem of_run (hrun : (Gathering.start r enrich).run history = some g) :
    Follows r enrich history g :=
  History.induction (start r enrich) (fun h hstep => h.step hstep) hrun

end Follows

/-! ## The histories that there are -/

theorem find?_of_mem {tasks : List Task} {t : Task} (hmem : t ∈ tasks)
    (hinj : ∀ s ∈ tasks, s.key = t.key → s = t) : tasks.find? (·.key = t.key) = some t := by
  cases hfind : tasks.find? (·.key = t.key) with
  | none =>
    have hnone := List.find?_eq_none.1 hfind t hmem
    simp at hnone
  | some s =>
    obtain ⟨hs, hkey⟩ := find?_key hfind
    rw [hinj s hs hkey]

theorem Phase.path_eq_nil_iff : phase.path = [] ↔ phase = .spawned := by
  cases phase <;> simp [Phase.path]

theorem Phase.path_eq_asking_iff : phase.path = [.asking] ↔ phase = .asking := by
  cases phase <;> simp [Phase.path]

namespace Follows

theorem exists_task_of_mem_keys (h : Follows r enrich history g) (henrich : enrich = true)
    (hkey : key ∈ r.keys) : ∃ t ∈ g.tasks, t.key = key := by
  have hmem : key ∈ g.tasks.map (·.key) := by rwa [h.keys_eq, if_pos henrich]
  exact List.mem_map.1 hmem

theorem mem_entries (h : Follows r enrich history g) {t : Task} (ht : t ∈ g.tasks) :
    enrich = true ∧ t.entry ∈ r.entries := by
  have hmem : t.entry ∈ g.tasks.map Task.entry := List.mem_map_of_mem ht
  rw [h.entries_eq] at hmem
  cases enrich with
  | false => cases hmem
  | true => exact ⟨rfl, hmem⟩

theorem mem_keys_of_task (h : Follows r enrich history g) {t : Task} (ht : t ∈ g.tasks) :
    enrich = true ∧ t.key ∈ r.keys := by
  obtain ⟨henrich, hentry⟩ := h.mem_entries ht
  exact ⟨henrich, List.mem_map_of_mem hentry⟩

theorem find?_eq (h : Follows r enrich history g) {t : Task} (ht : t ∈ g.tasks) :
    g.tasks.find? (·.key = t.key) = some t :=
  find?_of_mem ht fun _ hs hkey => h.eq_of_key_eq hs ht hkey

end Follows

/-- Whether no task ends before it has asked, or does either twice, and only keys of the registry
    have tasks. -/
def Orderly (r : Registry Client) (enrich : Bool) (history : List Event) : Prop :=
  ∀ key, (∃ phase : Phase, phases key history = phase.path) ∧
    (phases key history ≠ [] → enrich = true ∧ key ∈ r.keys)

/-- What comes before a phase is a phase, so a history is orderly as far as it has come. -/
theorem Orderly.of_append_singleton (h : Orderly r enrich (history ++ [event])) :
    Orderly r enrich history := by
  intro key
  obtain ⟨⟨phase, hphase⟩, hkey⟩ := h key
  rw [phases_append_singleton] at hphase hkey
  refine ⟨?_, fun hne => hkey fun hnil => hne (List.append_eq_nil_iff.1 hnil).1⟩
  cases hentered : entered key event with
  | none => exact ⟨phase, by simpa [hentered] using hphase⟩
  | some next =>
    rw [hentered] at hphase
    cases next with
    | spawned => exact absurd hentered (by cases event <;> simp [entered])
    | asking => exact ⟨.spawned, Phase.path_eq_append_asking hphase.symm⟩
    | ended ending => exact ⟨.asking, Phase.path_eq_append_ended hphase.symm⟩

theorem Follows.orderly (h : Follows r enrich history g) : Orderly r enrich history := by
  intro key
  by_cases htask : ∃ t ∈ g.tasks, t.key = key
  · obtain ⟨t, ht, rfl⟩ := htask
    exact ⟨⟨t.phase, h.phases_eq t ht⟩, fun _ => h.mem_keys_of_task ht⟩
  · have hnil := h.phases_eq_nil key fun t ht hkey => htask ⟨t, ht, hkey⟩
    exact ⟨⟨.spawned, hnil⟩, fun hne => absurd hnil hne⟩

/-- The task that an event of an orderly history is about. -/
theorem Follows.exists_task (h : Follows r enrich history g)
    (horderly : Orderly r enrich (history ++ [event])) (hentered : entered key event = some phase) :
    ∃ t ∈ g.tasks, t.key = key ∧ ∃ next : Phase, next.path = t.phase.path ++ [phase] := by
  obtain ⟨⟨next, hnext⟩, hkey⟩ := horderly key
  rw [phases_append_singleton, hentered] at hnext hkey
  obtain ⟨henrich, hmem⟩ := hkey (by simp)
  obtain ⟨t, ht, rfl⟩ := h.exists_task_of_mem_keys henrich hmem
  rw [h.phases_eq t ht] at hnext
  exact ⟨t, ht, rfl, next, hnext.symm⟩

theorem Follows.step_isSome (h : Follows r enrich history g)
    (horderly : Orderly r enrich (history ++ [event])) : (g.step event).isSome = true := by
  cases event with
  | registered id client => rfl
  | asked key =>
    obtain ⟨t, ht, rfl, next, hnext⟩ := h.exists_task horderly (if_pos rfl)
    have hspawned := Phase.path_eq_nil_iff.1 (Phase.path_eq_append_asking hnext)
    have hfind := h.find?_eq ht
    obtain ⟨key, client, _⟩ := t
    obtain rfl := hspawned
    simp [Gathering.step, hfind]
  | ended key ending =>
    obtain ⟨t, ht, rfl, next, hnext⟩ := h.exists_task horderly (if_pos rfl)
    have hasking := Phase.path_eq_asking_iff.1 (Phase.path_eq_append_ended hnext)
    have hfind := h.find?_eq ht
    obtain ⟨key, client, _⟩ := t
    obtain rfl := hasking
    simp [Gathering.step, hfind]

/-- The histories that can happen are the orderly ones: the tasks take their turns in any order,
    end in any way, and clients are registered at any time. -/
theorem run_isSome_iff :
    ((start r enrich).run history).isSome = true ↔ Orderly r enrich history := by
  constructor
  · intro hsome
    obtain ⟨g, hrun⟩ := Option.isSome_iff_exists.1 hsome
    exact (Follows.of_run hrun).orderly
  · intro horderly
    induction history using List.reverseRecOn with
    | nil => rfl
    | append_singleton history event ih =>
      obtain ⟨g, hrun⟩ := Option.isSome_iff_exists.1 (ih horderly.of_append_singleton)
      rw [run_append_singleton, hrun]
      exact (Follows.of_run hrun).step_isSome horderly

end AssetOracle.Gathering
