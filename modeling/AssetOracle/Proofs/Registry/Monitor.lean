import AssetOracle.Proofs.History
import AssetOracle.Proofs.Metrics
import AssetOracle.Proofs.Registry.Interleaving
import AssetOracle.Registry.Monitor

/-!
# Counts of listings

What is counted of nodes is counted by listings with states, and by nothing else: a listing that
finishes counts every key of the registry that it began with once, as a success exactly if the
entry of the key shows a state (`Listed.outcomes_records`). The invariant of a run (`Sound`) ties
the listings that are in progress or have finished to the histories of their own tasks; each event
keeps it (`Sound.step`), however the listings overlap.
-/

namespace AssetOracle

namespace Gathering

variable {r : Registry Client} {enrich : Bool} {history : List Event} {g : Gathering}
  {nodes : List RegisteredNode} {tasks : List Task}

/-- What the task of a key hands over when it ends. -/
def handing (key : String) :
    Ending (NodeResult ChainState) → Ending (String × NodeResult ChainState)
  | .returned result => .returned (key, result)
  | .aborted => .aborted

theorem handed?_eq (t : Task) : t.handed? = t.ending?.map (handing t.key) := by
  unfold Task.handed? Task.ending?
  cases t.phase with
  | spawned => rfl
  | asking => rfl
  | ended ending => cases ending <;> rfl

/-- Whichever way a task ends, it is counted under its key. -/
theorem record_handing (key : String) (ending : Ending (NodeResult ChainState)) :
    record (.bare key) (handing key ending) = Listing.metricOf key ending := by
  cases ending with
  | aborted => rfl
  | returned result => cases result <;> rfl

theorem records_of_tasks (tasks : List Task) :
    (tasks.mapM Task.handed?).map (List.zipWith record (tasks.map fun t => .bare t.key)) =
      (tasks.mapM Task.ending?).map (List.zipWith Listing.metricOf (tasks.map (·.key))) := by
  induction tasks with
  | nil => rfl
  | cons t tasks ih =>
    rw [List.mapM_cons, List.mapM_cons, handed?_eq]
    cases t.ending? with
    | none => rfl
    | some ending =>
      have hcons := congrArg (Option.map (Listing.metricOf t.key ending :: ·)) ih
      simpa [Option.map_eq_bind, Option.bind_assoc, record_handing] using hcons

theorem metrics_of_endings {endings : List (Ending (NodeResult ChainState))}
    (h : tasks.mapM Task.ending? = some endings) :
    List.zipWith Listing.metricOf (tasks.map (·.key)) endings =
      tasks.map fun t => .nodeInfo t.key t.phase.state?.isSome := by
  induction tasks generalizing endings with
  | nil => rfl
  | cons t tasks ih =>
    rw [List.mapM_cons] at h
    obtain ⟨ending, hending, h⟩ := Option.bind_eq_some_iff.1 h
    obtain ⟨rest, hrest, h⟩ := Option.bind_eq_some_iff.1 h
    obtain rfl := Option.some.inj h
    rw [List.map_cons, List.map_cons, List.zipWith_cons_cons, ih hrest,
      Task.ending?_eq_some_iff.1 hending]
    rfl

namespace Follows

theorem slots_eq_map (h : Follows r true history g) :
    g.slots = g.tasks.map fun t => .bare t.key := by
  have hkeys : r.keys = g.tasks.map (·.key) := h.keys_eq.symm
  rw [h.slots_eq, hkeys, List.map_map]
  rfl

theorem tasks_eq_nil (h : Follows r false history g) : g.tasks = [] :=
  List.map_eq_nil_iff.1 h.entries_eq

/-- A listing counts by its slots what it would count by its tasks: the keys are the same. -/
theorem records?_eq_metrics? (h : Follows r enrich history g) : g.records? = g.metrics? := by
  cases enrich with
  | true =>
    rw [records?, h.slots_eq_map, records_of_tasks]
    rfl
  | false => simp [records?, metrics?, endings?, h.tasks_eq_nil]

/-- What is counted of a complete listing, read off its entries. -/
theorem records?_eq (h : Follows r enrich history g) (hnodes : g.nodes? = some nodes) :
    g.records? = some (if enrich then
      nodes.map fun node => .nodeInfo node.asset node.info.isSome else []) := by
  obtain ⟨endings, hendings, rfl⟩ := Option.map_eq_some_iff.1 hnodes
  rw [h.records?_eq_metrics?, metrics?, hendings, Option.map_some]
  cases enrich with
  | true =>
    rw [h.slots_eq_map, fill_endings hendings, metrics_of_endings hendings, List.map_map]
    rfl
  | false => simp [h.tasks_eq_nil]

end Follows

end Gathering

namespace Monitor

/-! ## Listings that have finished -/

namespace Listed

/-- What is counted of a listing. -/
def records (l : Listed) : List Metric :=
  if l.enrich then l.nodes.map fun node => .nodeInfo node.asset node.info.isSome else []

/-- Whether a listing shows states, and a key is in the registry that it began with. -/
def covers (l : Listed) (key : String) : Bool := l.enrich && decide (key ∈ l.snapshot.keys)

/-- Whether the entry of a key shows a state. -/
def answers (l : Listed) (key : String) : Bool :=
  l.nodes.any fun node => decide (node.asset = key) && node.info.isSome

end Listed

/-- Of entries with different keys, at most one is about a key. -/
theorem outcomes_of_nodes {nodes : List RegisteredNode} (hnodup : (nodes.map (·.asset)).Nodup)
    (key : String) :
    (nodes.map fun node => Metric.nodeInfo node.asset node.info.isSome).filterMap
        (Metric.outcome? key) =
      if key ∈ nodes.map (·.asset) then
        [nodes.any fun node => decide (node.asset = key) && node.info.isSome] else [] := by
  induction nodes with
  | nil => rfl
  | cons node nodes ih =>
    rw [List.map_cons, List.nodup_cons] at hnodup
    obtain ⟨hnode, hnodes⟩ := hnodup
    rw [List.map_cons, List.map_cons, List.filterMap_cons, ih hnodes, Metric.outcome?]
    by_cases hkey : node.asset = key
    · have hrest : (nodes.any fun other => decide (other.asset = key) && other.info.isSome) =
          false := by
        rw [List.any_eq_false]
        intro other hother
        have hne : other.asset ≠ key := fun heq =>
          hnode (hkey ▸ heq ▸ List.mem_map_of_mem hother)
        simp [hne]
      rw [← hkey] at hrest ⊢
      simp [hnode, hrest]
    · simp [hkey, Ne.symm hkey]

theorem Listed.outcomes_records {l : Listed} (hassets : l.nodes.map (·.asset) = l.snapshot.keys)
    (key : String) :
    l.records.filterMap (Metric.outcome? key) = if l.covers key then [l.answers key] else [] := by
  have hnodup : (l.nodes.map (·.asset)).Nodup := by
    rw [hassets]
    exact Keyed.nodup_keys l.snapshot.ascending
  unfold Listed.records Listed.covers Listed.answers
  cases l.enrich with
  | true => simp [outcomes_of_nodes hnodup, hassets]
  | false => rfl

/-- The outcomes that are counted of a key are those of the listings that cover it, in the order
    in which these finished. -/
theorem outcomes_flatMap {finished : List Listed}
    (hassets : ∀ l ∈ finished, l.nodes.map (·.asset) = l.snapshot.keys) (key : String) :
    (finished.flatMap Listed.records).filterMap (Metric.outcome? key) =
      (finished.filter (·.covers key)).map (·.answers key) := by
  induction finished with
  | nil => rfl
  | cons l finished ih =>
    obtain ⟨hl, hfinished⟩ := List.forall_mem_cons.1 hassets
    rw [List.flatMap_cons, List.filterMap_append, ih hfinished, Listed.outcomes_records hl]
    cases hcovers : l.covers key <;> simp [hcovers]

/-! ## The histories of listings -/

/-- What an event means to the tasks of a listing. -/
def own? (number : Nat) : Event → Option Gathering.Event
  | .asked n key => if n = number then some (.asked key) else none
  | .ended n key ending => if n = number then some (.ended key ending) else none
  | _ => none

/-- What happened to the tasks of a listing. -/
def own (number : Nat) (history : List Event) : List Gathering.Event :=
  history.filterMap (own? number)

/-- The listing that finishes by an event. -/
def finishing? : Event → Option Nat
  | .finished number => some number
  | _ => none

/-- Whether a listing of a registry began in a history as the one of a number. -/
def Began (history : List Event) (number : Nat) (snapshot : Registry Client) (enrich : Bool) :
    Prop :=
  ∃ front back before, history = front ++ .began enrich :: back ∧
    ({} : Monitor).run front = some before ∧ before.begun = number ∧ before.registry = snapshot

variable {history : List Event} {event : Event} {m m' : Monitor} {number : Nat}
  {snapshot : Registry Client} {enrich : Bool}

theorem run_append_singleton :
    m.run (history ++ [event]) = (m.run history).bind (·.step event) :=
  History.foldlM_append_singleton

theorem own_append_singleton :
    own number (history ++ [event]) = own number history ++ (own? number event).toList := by
  unfold own
  rw [List.filterMap_append]
  cases h : own? number event <;> simp [h]

theorem own_eq_of_none (h : own? number event = none) :
    own number (history ++ [event]) = own number history := by
  rw [own_append_singleton, h]
  exact List.append_nil _

theorem ended_mem_own {key : String} {ending : Ending (NodeResult ChainState)} :
    .ended key ending ∈ own number history ↔ .ended number key ending ∈ history := by
  unfold own
  rw [List.mem_filterMap]
  constructor
  · rintro ⟨event, hmem, hown⟩
    cases event with
    | ended n k other =>
      rw [own?] at hown
      split at hown
      · rename_i hnumber
        cases hown
        rwa [← hnumber]
      · cases hown
    | asked n k =>
      rw [own?] at hown
      split at hown <;> cases hown
    | registered id client => cases hown
    | began enrich => cases hown
    | finished n => cases hown
    | abandoned n => cases hown
  · intro hmem
    exact ⟨_, hmem, by simp [own?]⟩

theorem Began.append_singleton (h : Began history number snapshot enrich) :
    Began (history ++ [event]) number snapshot enrich := by
  obtain ⟨front, back, before, rfl, hbefore⟩ := h
  exact ⟨front, back ++ [event], before, by simp, hbefore⟩

/-! ## The rules of a step -/

theorem rounds_place (n : Nat) (round : Option Round) :
    (m.place number round).rounds n = if n = number then round else m.rounds n := rfl

/-- A step of a listing in progress starts no other. -/
theorem rounds_place_eq_none {n : Nat} {old : Round} {new : Option Round}
    (hnumber : m.rounds number = some old) (hn : m.rounds n = none) :
    (m.place number new).rounds n = none := by
  have hne : n ≠ number := by
    rintro rfl
    rw [hnumber] at hn
    cases hn
  rw [rounds_place, if_neg hne, hn]

theorem of_advance {e : Gathering.Event} (h : m.advance number e = some m') :
    ∃ round gathering, m.rounds number = some round ∧ round.gathering.step e = some gathering ∧
      m' = m.place number (some { round with gathering }) := by
  obtain ⟨round, hround, h⟩ := Option.bind_eq_some_iff.1 h
  obtain ⟨gathering, hgathering, h⟩ := Option.bind_eq_some_iff.1 h
  exact ⟨round, gathering, hround, hgathering, (Option.some.inj h).symm⟩

theorem of_finish (h : m.finish number = some m') :
    ∃ round nodes records, m.rounds number = some round ∧ round.gathering.nodes? = some nodes ∧
      round.gathering.records? = some records ∧
      m' = { m.place number none with
        finished := m.finished ++ [⟨number, round.snapshot, round.enrich, nodes⟩]
        counted := m.counted ++ records } := by
  obtain ⟨round, hround, h⟩ := Option.bind_eq_some_iff.1 h
  obtain ⟨nodes, hnodes, h⟩ := Option.bind_eq_some_iff.1 h
  obtain ⟨records, hrecords, h⟩ := Option.bind_eq_some_iff.1 h
  exact ⟨round, nodes, records, hround, hnodes, hrecords, (Option.some.inj h).symm⟩

/-! ## The invariant -/

/-- Whether a listing in progress has come about by a history. -/
structure Round.ComesFrom (history : List Event) (number : Nat) (round : Round) : Prop where
  began : Began history number round.snapshot round.enrich
  follows : Gathering.Follows round.snapshot round.enrich (own number history) round.gathering

/-- Whether a listing that was returned has come about by a history. -/
structure Listed.ComesFrom (history : List Event) (l : Listed) : Prop where
  began : Began history l.number l.snapshot l.enrich
  follows : ∃ g, Gathering.Follows l.snapshot l.enrich (own l.number history) g ∧
    g.nodes? = some l.nodes

/-- What is known of a monitor after a history: nothing has happened to listings that have not
    begun, and whatever is in progress or has finished has come about by the history; the listings
    that have finished are those that the history says, and they alone are counted. -/
structure Sound (history : List Event) (m : Monitor) : Prop where
  reached : ({} : Monitor).run history = some m
  ahead : ∀ number ≥ m.begun, m.rounds number = none ∧ own number history = []
  round : ∀ number round, m.rounds number = some round → round.ComesFrom history number
  listed : ∀ l ∈ m.finished,
    l.number < m.begun ∧ m.rounds l.number = none ∧ l.ComesFrom history
  numbers_eq : m.finished.map (·.number) = history.filterMap finishing?
  counted_eq : m.counted = m.finished.flatMap Listed.records

theorem Round.ComesFrom.append_singleton {round : Round} (h : round.ComesFrom history number)
    (hown : own? number event = none) : round.ComesFrom (history ++ [event]) number where
  began := h.began.append_singleton
  follows := by
    rw [own_eq_of_none hown]
    exact h.follows

theorem Listed.ComesFrom.append_singleton {l : Listed} (h : l.ComesFrom history)
    (hown : own? l.number event = none) : l.ComesFrom (history ++ [event]) where
  began := h.began.append_singleton
  follows := by
    rw [own_eq_of_none hown]
    exact h.follows

namespace Sound

theorem start : Sound [] {} where
  reached := rfl
  ahead := fun _ _ => ⟨rfl, rfl⟩
  round := by
    intro number round hround
    cases hround
  listed := by
    intro l hl
    cases hl
  numbers_eq := rfl
  counted_eq := rfl

theorem reached_step (h : Sound history m) (hstep : m.step event = some m') :
    ({} : Monitor).run (history ++ [event]) = some m' := by
  rw [run_append_singleton, h.reached]
  exact hstep

/-- An event of a listing in progress is no event of a listing ahead. -/
theorem ahead_append (h : Sound history m)
    (hown : ∀ n, m.rounds n = none → own? n event = none) :
    ∀ number ≥ m.begun, m.rounds number = none ∧ own number (history ++ [event]) = [] := by
  intro number hnumber
  obtain ⟨hround, hnil⟩ := h.ahead number hnumber
  refine ⟨hround, ?_⟩
  rw [own_eq_of_none (hown number hround), hnil]

/-- An event of a listing in progress is no event of a listing that has finished. -/
theorem listed_append (h : Sound history m)
    (hown : ∀ n, m.rounds n = none → own? n event = none) :
    ∀ l ∈ m.finished,
      l.number < m.begun ∧ m.rounds l.number = none ∧ l.ComesFrom (history ++ [event]) := by
  intro l hl
  obtain ⟨hlt, hround, hfrom⟩ := h.listed l hl
  exact ⟨hlt, hround, hfrom.append_singleton (hown l.number hround)⟩

/-- The same once the listing in progress has made way for another or for none. -/
theorem ahead_place (h : Sound history m) {old : Round} (new : Option Round)
    (hround : m.rounds number = some old) (hown : ∀ n, m.rounds n = none → own? n event = none) :
    ∀ n ≥ m.begun, (m.place number new).rounds n = none ∧ own n (history ++ [event]) = [] := by
  intro n hn
  obtain ⟨hnone, hnil⟩ := h.ahead_append hown n hn
  exact ⟨rounds_place_eq_none hround hnone, hnil⟩

theorem listed_place (h : Sound history m) {old : Round} (new : Option Round)
    (hround : m.rounds number = some old) (hown : ∀ n, m.rounds n = none → own? n event = none) :
    ∀ l ∈ m.finished, l.number < m.begun ∧ (m.place number new).rounds l.number = none ∧
      l.ComesFrom (history ++ [event]) := by
  intro l hl
  obtain ⟨hlt, hnone, hfrom⟩ := h.listed_append hown l hl
  exact ⟨hlt, rounds_place_eq_none hround hnone, hfrom⟩

theorem numbers_append (h : Sound history m) (hevent : finishing? event = none) :
    m.finished.map (·.number) = (history ++ [event]).filterMap finishing? := by
  rw [List.filterMap_append, ← h.numbers_eq]
  simp [hevent]

theorem began (h : Sound history m) : Sound (history ++ [.began enrich]) (m.begin enrich) := by
  have hown : ∀ n, m.rounds n = none → own? n (.began enrich) = none := fun _ _ => rfl
  refine ⟨h.reached_step rfl, ?_, ?_, ?_, h.numbers_append rfl, h.counted_eq⟩
  · intro number hnumber
    have hlt : m.begun < number := hnumber
    obtain ⟨hround, hnil⟩ := h.ahead_append hown number hlt.le
    refine ⟨?_, hnil⟩
    rw [← hround]
    exact if_neg hlt.ne'
  · intro number round hround
    by_cases hnumber : number = m.begun
    · obtain rfl := hnumber
      obtain ⟨-, hnil⟩ := h.ahead_append hown m.begun le_rfl
      have hnew : (m.begin enrich).rounds m.begun =
          some ⟨m.registry, enrich, .start m.registry enrich⟩ := if_pos rfl
      obtain rfl := Option.some.inj (hnew.symm.trans hround)
      refine ⟨⟨history, [], m, rfl, h.reached, rfl, rfl⟩, ?_⟩
      rw [hnil]
      exact .start m.registry enrich
    · have hold : (m.begin enrich).rounds number = m.rounds number := if_neg hnumber
      exact (h.round number round (hold.symm.trans hround)).append_singleton rfl
  · intro l hl
    obtain ⟨hlt, hround, hfrom⟩ := h.listed_append hown l hl
    refine ⟨Nat.lt_succ_of_lt hlt, ?_, hfrom⟩
    rw [← hround]
    exact if_neg hlt.ne

/-- A task that asks or ends changes its own listing and no other. -/
theorem advance (h : Sound history m) {e : Gathering.Event}
    (hstep : m.step event = m.advance number e) (hadvance : m.advance number e = some m')
    (hown : ∀ n, own? n event = if number = n then some e else none)
    (hevent : finishing? event = none) : Sound (history ++ [event]) m' := by
  have hreached := h.reached_step (hstep.trans hadvance)
  obtain ⟨round, gathering, hround, hgathering, rfl⟩ := of_advance hadvance
  have hother : ∀ n, m.rounds n = none → own? n event = none := by
    intro n hn
    rw [hown, if_neg]
    rintro rfl
    rw [hround] at hn
    cases hn
  refine ⟨hreached, h.ahead_place _ hround hother, ?_, h.listed_place _ hround hother,
    h.numbers_append hevent, h.counted_eq⟩
  intro n other hn
  rw [rounds_place] at hn
  by_cases hnumber : n = number
  · obtain rfl := hnumber
    rw [if_pos rfl] at hn
    obtain rfl := Option.some.inj hn
    have hfrom := h.round n round hround
    refine ⟨hfrom.began.append_singleton, ?_⟩
    rw [own_append_singleton, hown, if_pos rfl]
    exact hfrom.follows.step hgathering
  · rw [if_neg hnumber] at hn
    refine (h.round n other hn).append_singleton ?_
    rw [hown, if_neg (Ne.symm hnumber)]

/-- When a listing leaves, the others go on. -/
theorem round_append {n : Nat} {other : Round} (h : Sound history m)
    (hown : own? n event = none) (hn : (m.place number none).rounds n = some other) :
    other.ComesFrom (history ++ [event]) n := by
  rw [rounds_place] at hn
  by_cases hnumber : n = number
  · rw [if_pos hnumber] at hn
    cases hn
  · rw [if_neg hnumber] at hn
    exact (h.round n other hn).append_singleton hown

theorem finish (h : Sound history m) (hfinish : m.finish number = some m') :
    Sound (history ++ [.finished number]) m' := by
  have hown : ∀ n, m.rounds n = none → own? n (.finished number) = none := fun _ _ => rfl
  have hreached : ({} : Monitor).run (history ++ [.finished number]) = some m' :=
    h.reached_step hfinish
  obtain ⟨round, nodes, records, hround, hnodes, hrecords, rfl⟩ := of_finish hfinish
  have hfrom : round.ComesFrom (history ++ [.finished number]) number :=
    (h.round number round hround).append_singleton rfl
  refine ⟨hreached, h.ahead_place _ hround hown, fun n other hn => h.round_append rfl hn, ?_, ?_,
    ?_⟩
  · intro l hl
    rcases List.mem_append.1 hl with hl | hl
    · exact h.listed_place _ hround hown l hl
    · obtain rfl := List.mem_singleton.1 hl
      refine ⟨?_, if_pos rfl, hfrom.began, round.gathering, hfrom.follows, hnodes⟩
      by_contra hle
      rw [(h.ahead number (Nat.le_of_not_lt hle)).1] at hround
      cases hround
  · rw [List.map_append, h.numbers_eq, List.filterMap_append]
    rfl
  · have hlisted : records = Listed.records ⟨number, round.snapshot, round.enrich, nodes⟩ :=
      Option.some.inj (hrecords.symm.trans (hfrom.follows.records?_eq hnodes))
    rw [List.flatMap_append, ← h.counted_eq, hlisted, List.flatMap_singleton]

theorem abandon (h : Sound history m) {round : Round} (hround : m.rounds number = some round) :
    Sound (history ++ [.abandoned number]) (m.place number none) := by
  have hown : ∀ n, m.rounds n = none → own? n (.abandoned number) = none := fun _ _ => rfl
  refine ⟨h.reached_step ?_, h.ahead_place _ hround hown, fun n other hn => h.round_append rfl hn,
    h.listed_place _ hround hown, h.numbers_append rfl, h.counted_eq⟩
  rw [Monitor.step, hround]
  rfl

/-- Each event keeps the invariant. -/
theorem step (h : Sound history m) (hstep : m.step event = some m') :
    Sound (history ++ [event]) m' := by
  cases event with
  | registered id client =>
    have hown : ∀ n, m.rounds n = none → own? n (.registered id client) = none := fun _ _ => rfl
    obtain rfl := Option.some.inj hstep
    exact
      { reached := h.reached_step hstep
        ahead := h.ahead_append hown
        round := fun n round hround => (h.round n round hround).append_singleton rfl
        listed := h.listed_append hown
        numbers_eq := h.numbers_append rfl
        counted_eq := h.counted_eq }
  | began enrich =>
    obtain rfl := Option.some.inj hstep
    exact h.began
  | asked number key => exact h.advance rfl hstep (fun _ => rfl) rfl
  | ended number key ending => exact h.advance rfl hstep (fun _ => rfl) rfl
  | finished number => exact h.finish hstep
  | abandoned number =>
    obtain ⟨round, hround, rfl⟩ := Option.map_eq_some_iff.1 hstep
    exact h.abandon hround

theorem of_run (hrun : ({} : Monitor).run history = some m) : Sound history m :=
  History.induction start (fun h hstep => h.step hstep) hrun

end Sound

/-! ## What is counted -/

theorem Listed.ComesFrom.assets_eq {l : Listed} (h : l.ComesFrom history) :
    l.nodes.map (·.asset) = l.snapshot.keys := by
  obtain ⟨g, hfollows, hnodes⟩ := h.follows
  exact hfollows.assets_eq hnodes

/-- The entry of a key shows a state exactly if the task of the key ended with one. -/
theorem Listed.ComesFrom.answers_iff {l : Listed} (h : l.ComesFrom history) {key : String}
    (hkey : key ∈ l.snapshot.keys) :
    l.answers key = true ↔
      l.enrich = true ∧ ∃ state, .ended l.number key (.returned (.ok state)) ∈ history := by
  obtain ⟨g, hfollows, hnodes⟩ := h.follows
  have hinfo {node : RegisteredNode} (hnode : node ∈ l.nodes) (state : ChainState) :
      node.info = some state ↔
        l.enrich = true ∧ .ended l.number node.asset (.returned (.ok state)) ∈ history := by
    rw [(hfollows.node_of_mem hnodes hnode).2 state, ended_mem_own]
  rw [← hfollows.assets_eq hnodes] at hkey
  obtain ⟨node, hnode, rfl⟩ := List.mem_map.1 hkey
  unfold Listed.answers
  rw [List.any_eq_true]
  constructor
  · rintro ⟨other, hother, hanswers⟩
    obtain ⟨hasset, hsome⟩ := Bool.and_eq_true_iff.1 hanswers
    obtain ⟨state, hstate⟩ := Option.isSome_iff_exists.1 hsome
    obtain ⟨henrich, hended⟩ := (hinfo hother state).1 hstate
    rw [of_decide_eq_true hasset] at hended
    exact ⟨henrich, state, hended⟩
  · rintro ⟨henrich, state, hended⟩
    refine ⟨node, hnode, ?_⟩
    simp [(hinfo hnode state).2 ⟨henrich, hended⟩]

/-- If all tasks end as their clients do, the listing is the one that the registry gives. -/
theorem Listed.ComesFrom.records_eq {l : Listed} (h : l.ComesFrom history)
    (hending : ∀ e ∈ l.snapshot.entries, ∀ ending,
      .ended l.number e.1 ending ∈ history → ending = e.2.info.ending) :
    l.nodes = (l.snapshot.list l.enrich).nodes ∧
      l.records = (l.snapshot.list l.enrich).metrics := by
  obtain ⟨g, hfollows, hnodes⟩ := h.follows
  have hlist : l.nodes = (l.snapshot.list l.enrich).nodes := by
    rw [Gathering.nodes_list]
    exact hfollows.nodes_eq_map hnodes fun e he ending hended =>
      hending e he ending (ended_mem_own.1 hended)
  refine ⟨hlist, ?_⟩
  rw [Listed.records, hlist]
  cases l.enrich with
  | true =>
    rw [if_pos rfl]
    change List.map _ (List.map _ _) = List.map _ _
    rw [List.map_map]
    rfl
  | false => rfl

/-- Nothing is counted but what a listing with states brings when it finishes. -/
theorem Sound.counted_of_step (h : Sound history m) (hstep : m.step event = some m') :
    m'.counted = m.counted ∨
      ∃ l, event = .finished l.number ∧ l.enrich = true ∧ m'.finished = m.finished ++ [l] := by
  cases event with
  | registered id client =>
    obtain rfl := Option.some.inj hstep
    exact .inl rfl
  | began enrich =>
    obtain rfl := Option.some.inj hstep
    exact .inl rfl
  | asked number key =>
    obtain ⟨round, gathering, -, -, rfl⟩ := of_advance hstep
    exact .inl rfl
  | ended number key ending =>
    obtain ⟨round, gathering, -, -, rfl⟩ := of_advance hstep
    exact .inl rfl
  | finished number =>
    obtain ⟨round, nodes, records, hround, hnodes, hrecords, rfl⟩ := of_finish hstep
    cases henrich : round.enrich with
    | true => exact .inr ⟨_, rfl, rfl, rfl⟩
    | false =>
      have hfollows := (h.round number round hround).follows
      obtain rfl := Option.some.inj (hrecords.symm.trans (hfollows.records?_eq hnodes))
      refine .inl ?_
      simp [henrich]
  | abandoned number =>
    obtain ⟨round, -, rfl⟩ := Option.map_eq_some_iff.1 hstep
    exact .inl rfl

theorem Sound.outcomes_eq (h : Sound history m) (key : String) :
    m.counted.filterMap (Metric.outcome? key) =
      (m.finished.filter (·.covers key)).map (·.answers key) := by
  rw [h.counted_eq]
  exact outcomes_flatMap (fun l hl => (h.listed l hl).2.2.assets_eq) key

/-- A listing can finish once all its tasks have ended, in whatever way. -/
theorem Sound.finish_isSome_iff (h : Sound history m) {round : Round}
    (hround : m.rounds number = some round) :
    (m.step (.finished number)).isSome = true ↔ (round.enrich = true →
      ∀ key ∈ round.snapshot.keys, ∃ ending, .ended number key ending ∈ history) := by
  have hfollows := (h.round number round hround).follows
  have hcomplete := hfollows.nodes?_isSome_iff
  simp only [ended_mem_own] at hcomplete
  rw [← hcomplete, Monitor.step, Monitor.finish, hround]
  cases hnodes : round.gathering.nodes? with
  | none => simp [hnodes]
  | some nodes => simp [hnodes, hfollows.records?_eq hnodes]

/-- What is counted of nodes over time. Let clients be registered and listings begin, have their
    tasks ask and end in any order and in any way, overlap, finish and be given up, in any history.
    Then for every key the counters of both outcomes add up to the listings with states that have
    finished and whose registry had the key when they began, the counter of successes says how many
    of these showed a state under the key, and the gauge, which is on the page, says whether the
    last of them did. Nothing else is counted, and nothing of a listing without states. A listing
    can finish once all its tasks have ended, in whatever way. The listings that have finished are
    those of the history, in its order; each has the keys that were registered when it began, and
    shows a state under one of them exactly if the task of that key ended with a state, so an error
    and a panic are the same. If the tasks end as their clients do, a listing and what is counted
    of it are those that the registry gives. -/
theorem counts_of_run (hrun : ({} : Monitor).run history = some m) :
    (∀ key,
      Metric.nodeInfos m.counted key true + Metric.nodeInfos m.counted key false =
          m.finished.countP (·.covers key) ∧
        Metric.nodeInfos m.counted key true =
          m.finished.countP (fun l => l.covers key && l.answers key) ∧
        Metric.nodeUp m.counted key =
          (m.finished.filter (·.covers key)).getLast?.map (·.answers key) ∧
        ∀ l, (m.finished.filter (·.covers key)).getLast? = some l →
          Metric.labelled "oracle_node_up" [("asset", key)] (if l.answers key then 1 else 0) ∈
            Metric.page m.counted) ∧
      (∀ event m', m.step event = some m' → m'.counted = m.counted ∨
        ∃ l, event = .finished l.number ∧ l.enrich = true ∧ m'.finished = m.finished ++ [l]) ∧
      (∀ number round, m.rounds number = some round →
        ((m.step (.finished number)).isSome = true ↔ (round.enrich = true →
          ∀ key ∈ round.snapshot.keys, ∃ ending, .ended number key ending ∈ history))) ∧
      m.finished.map (·.number) = history.filterMap finishing? ∧
      ∀ l ∈ m.finished, Began history l.number l.snapshot l.enrich ∧
        l.nodes.map (·.asset) = l.snapshot.keys ∧
        (∀ key ∈ l.snapshot.keys, l.answers key = true ↔
          l.enrich = true ∧ ∃ state, .ended l.number key (.returned (.ok state)) ∈ history) ∧
        ((∀ e ∈ l.snapshot.entries, ∀ ending,
            .ended l.number e.1 ending ∈ history → ending = e.2.info.ending) →
          l.nodes = (l.snapshot.list l.enrich).nodes ∧
            l.records = (l.snapshot.list l.enrich).metrics) := by
  have h := Sound.of_run hrun
  refine ⟨fun key => ?_, fun event m' hstep => h.counted_of_step hstep,
    fun number round hround => h.finish_isSome_iff hround, h.numbers_eq, fun l hl => ?_⟩
  · have houtcomes := h.outcomes_eq key
    have hup : Metric.nodeUp m.counted key =
        (m.finished.filter (·.covers key)).getLast?.map (·.answers key) := by
      rw [Metric.nodeUp_eq_getLast?, houtcomes, List.getLast?_map]
    refine ⟨?_, ?_, hup, fun l hl => ?_⟩
    · rw [Metric.nodeInfos_add, houtcomes, List.length_map, List.countP_eq_length_filter]
    · rw [Metric.nodeInfos_eq_count, houtcomes, List.count_eq_countP, List.countP_map,
        List.countP_filter]
      refine List.countP_congr fun l _ => ?_
      simp [and_comm]
    · refine Metric.gauge_mem_page ?_
      rw [hup, hl]
      rfl
  · obtain ⟨-, -, hfrom⟩ := h.listed l hl
    exact ⟨hfrom.began, hfrom.assets_eq, fun key hkey => hfrom.answers_iff hkey, hfrom.records_eq⟩

/-- Two clients and then a third are registered. The listing that begins first has the first two
    and finishes last, after one of all three and one without states; one of its tasks panics. The
    last listing is given up. -/
def overlapping : List Event :=
  [.registered "btc" (Gathering.stalled "btc"), .registered "eth" (Gathering.stalled "eth"),
    .began true, .registered "XRP" (Gathering.stalled "xrp"), .began true, .began false,
    .asked 1 "eth", .asked 0 "btc", .asked 1 "xrp", .asked 1 "btc", .asked 0 "eth",
    .ended 0 "btc" (.returned (.ok ⟨"main", 7, "00"⟩)),
    .ended 1 "xrp" (.returned (.error (.notFound "xrp"))), .ended 0 "eth" .aborted, .finished 2,
    .ended 1 "btc" (.returned (.error (.notFound "btc"))),
    .ended 1 "eth" (.returned (.ok ⟨"main", 8, "01"⟩)), .finished 1, .began true, .asked 3 "btc",
    .finished 0, .abandoned 3]

theorem counts_of_run_overlapping :
    ∃ m, ({} : Monitor).run overlapping = some m ∧ m.finished.map (·.number) = [2, 1, 0] ∧
      Metric.nodeInfos m.counted "btc" true + Metric.nodeInfos m.counted "btc" false = 2 ∧
      Metric.nodeInfos m.counted "eth" true = 1 ∧ Metric.nodeUp m.counted "btc" = some true ∧
      Metric.nodeUp m.counted "eth" = some false ∧ Metric.nodeUp m.counted "xrp" = some false := by
  have hrun : ({} : Monitor).run overlapping = some _ := rfl
  obtain ⟨hcounts, -, -, hnumbers, -⟩ := counts_of_run hrun
  obtain ⟨hbtc, -, hbtcUp, -⟩ := hcounts "btc"
  obtain ⟨-, heth, hethUp, -⟩ := hcounts "eth"
  obtain ⟨-, -, hxrpUp, -⟩ := hcounts "xrp"
  exact ⟨_, hrun, hnumbers, hbtc, heth, hbtcUp, hethUp, hxrpUp⟩

end Monitor

end AssetOracle
