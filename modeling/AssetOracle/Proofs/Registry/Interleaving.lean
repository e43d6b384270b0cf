import AssetOracle.Proofs.Registry.Gathering

/-!
# Listings under all interleavings

What a listing says does not depend on the order in which things happen while it is made: a
complete listing can be read off the keys at its start and the endings in the history
(`Follows.nodes?_eq`). So it is tied to the clients that were registered when it began, and the
ending of one client shows in the entry of that client only (`nodes_of_run`).
-/

namespace AssetOracle.Gathering

variable {r : Registry Client} {enrich : Bool} {history : List Event} {key : String}
  {phase : Phase} {g : Gathering} {nodes : List RegisteredNode}

theorem fill_nil (slots : List RegisteredNode) : fill slots [] = slots := by
  cases slots <;> rfl

/-- What is put into the slots, each in its place, is what the tasks brought. -/
theorem fill_endings {tasks : List Task} {endings : List (Ending (NodeResult ChainState))}
    (h : tasks.mapM Task.ending? = some endings) :
    fill (tasks.map fun t => .bare t.key) endings =
      tasks.map fun t => ⟨t.key, true, t.phase.state?⟩ := by
  induction tasks generalizing endings with
  | nil =>
    obtain rfl := Option.some.inj h
    rfl
  | cons t tasks ih =>
    rw [List.mapM_cons] at h
    obtain ⟨ending, hending, h⟩ := Option.bind_eq_some_iff.1 h
    obtain ⟨rest, hrest, h⟩ := Option.bind_eq_some_iff.1 h
    obtain rfl := Option.some.inj h
    have hphase := Task.ending?_eq_some_iff.1 hending
    have hslot : receive (.bare t.key) ending = ⟨t.key, true, t.phase.state?⟩ := by
      rw [hphase, receive, Phase.state?]
      cases Listing.stateOf ending <;> rfl
    rw [List.map_cons, List.map_cons, fill, ih hrest, hslot]

theorem isSome_mapM_ending? {tasks : List Task} :
    (tasks.mapM Task.ending?).isSome = true ↔ ∀ t ∈ tasks, ∃ ending, t.phase = .ended ending := by
  induction tasks with
  | nil => simp
  | cons t tasks ih =>
    rw [List.forall_mem_cons, ← ih, List.mapM_cons]
    cases hending : t.ending? with
    | none =>
      have hnot : ¬∃ ending, t.phase = .ended ending := by
        rintro ⟨ending, hphase⟩
        rw [Task.ending?_eq_some_iff.2 hphase] at hending
        cases hending
      simp [hnot]
    | some ending =>
      have hphase := Task.ending?_eq_some_iff.1 hending
      cases tasks.mapM Task.ending? <;> simp [hphase]

theorem nodes?_isSome :
    g.nodes?.isSome = true ↔ ∀ t ∈ g.tasks, ∃ ending, t.phase = .ended ending := by
  rw [nodes?, Option.isSome_map, endings?, isSome_mapM_ending?]

namespace Follows

theorem nodes?_isSome_iff (h : Follows r enrich history g) :
    g.nodes?.isSome = true ↔
      (enrich = true → ∀ key ∈ r.keys, ∃ ending, .ended key ending ∈ history) := by
  have hended {t : Task} (ht : t ∈ g.tasks) (ending : Ending (NodeResult ChainState)) :
      .ended t.key ending ∈ history ↔ t.phase = .ended ending := by
    rw [← ended_mem_phases, h.phases_eq t ht, Phase.ended_mem_path]
  rw [nodes?_isSome]
  constructor
  · intro hall henrich key hkey
    obtain ⟨t, ht, rfl⟩ := h.exists_task_of_mem_keys henrich hkey
    obtain ⟨ending, hphase⟩ := hall t ht
    exact ⟨ending, (hended ht ending).2 hphase⟩
  · intro hall t ht
    obtain ⟨henrich, hkey⟩ := h.mem_keys_of_task ht
    obtain ⟨ending, hmem⟩ := hall henrich t.key hkey
    exact ⟨ending, (hended ht ending).1 hmem⟩

/-- A complete listing, read off the keys at the start and the history. -/
theorem nodes?_eq (h : Follows r enrich history g) {nodes : List RegisteredNode}
    (hnodes : g.nodes? = some nodes) :
    nodes = r.keys.map fun key => ⟨key, true, reported key history⟩ := by
  obtain ⟨endings, hendings, rfl⟩ := Option.map_eq_some_iff.1 hnodes
  rw [h.slots_eq]
  cases enrich with
  | true =>
    have hkeys : r.keys = g.tasks.map (·.key) := h.keys_eq.symm
    have hslots : r.keys.map .bare = g.tasks.map fun t => RegisteredNode.bare t.key := by
      rw [hkeys, List.map_map]
      rfl
    rw [hslots, fill_endings hendings, hkeys, List.map_map]
    refine List.map_congr_left fun t ht => ?_
    rw [Function.comp_apply, reported, h.phases_eq t ht, Phase.findSome?_path]
  | false =>
    have hnil : g.tasks = [] := List.map_eq_nil_iff.1 h.entries_eq
    have hphases (key) : phases key history = [] :=
      h.phases_eq_nil key fun t ht => by simp [hnil] at ht
    rw [endings?, hnil, List.mapM_nil] at hendings
    obtain rfl : [] = endings := Option.some.inj hendings
    rw [fill_nil]
    refine List.map_congr_left fun key _ => ?_
    rw [reported, hphases]
    rfl

/-- While a listing is made, each client is asked at most once, and only the clients at the
    start are asked. -/
theorem mem_entries_of_call (h : Follows r enrich history g) {call : String × Client}
    (hcall : call ∈ g.calls) : enrich = true ∧ call ∈ r.entries := by
  obtain ⟨t, ht, rfl⟩ := h.task_of_call call hcall
  exact h.mem_entries ht

/-- When a listing is complete, each client has been asked once. -/
theorem calls_perm (h : Follows r enrich history g) (hnodes : g.nodes?.isSome = true) :
    g.calls.Perm (if enrich then r.entries else []) := by
  rw [nodes?_isSome] at hnodes
  have hnodup : (if enrich then r.entries else []).Nodup := by
    cases enrich with
    | false => exact List.nodup_nil
    | true => exact Keyed.nodup_of_nodup_keys (Keyed.nodup_keys r.ascending)
  refine (List.perm_ext_iff_of_nodup h.calls_nodup hnodup).2 fun call => ?_
  rw [← h.entries_eq]
  constructor
  · intro hcall
    obtain ⟨t, ht, rfl⟩ := h.task_of_call call hcall
    exact List.mem_map_of_mem ht
  · intro hmem
    obtain ⟨t, ht, rfl⟩ := List.mem_map.1 hmem
    obtain ⟨ending, hphase⟩ := hnodes t ht
    refine (h.called_iff t ht).2 ?_
    rw [hphase]
    exact fun heq => by cases heq

theorem assets_eq (h : Follows r enrich history g) (hnodes : g.nodes? = some nodes) :
    nodes.map (·.asset) = r.keys := by
  rw [h.nodes?_eq hnodes, List.map_map]
  exact List.map_id _

theorem node_of_mem (h : Follows r enrich history g) (hnodes : g.nodes? = some nodes)
    {node : RegisteredNode} (hnode : node ∈ nodes) :
    node.running = true ∧ ∀ state, node.info = some state ↔
      enrich = true ∧ .ended node.asset (.returned (.ok state)) ∈ history := by
  rw [h.nodes?_eq hnodes] at hnode
  obtain ⟨key, -, rfl⟩ := List.mem_map.1 hnode
  obtain ⟨⟨phase, hphase⟩, hkey⟩ := h.orderly key
  refine ⟨rfl, fun state => (reported_eq_some_iff hphase).trans ?_⟩
  refine ⟨fun hended => ⟨?_, hended⟩, And.right⟩
  have hmem := ended_mem_phases.2 hended
  exact (hkey (List.ne_nil_of_mem hmem)).1

/-- A complete listing shows how the clients at the start ended. -/
theorem nodes_eq_map (h : Follows r enrich history g) (hnodes : g.nodes? = some nodes)
    {endingOf : String × Client → Ending (NodeResult ChainState)}
    (hendingOf : ∀ e ∈ r.entries, ∀ ending, .ended e.1 ending ∈ history → ending = endingOf e) :
    nodes = r.entries.map fun e =>
      if enrich then Listing.entryOf e.1 (endingOf e) else .bare e.1 := by
  have hsome : g.nodes?.isSome = true := by rw [hnodes]; rfl
  rw [h.nodes?_eq hnodes, Registry.keys, List.map_map]
  refine List.map_congr_left fun e he => ?_
  obtain ⟨⟨phase, hphase⟩, hkey⟩ := h.orderly e.1
  rw [Function.comp_apply]
  cases enrich with
  | true =>
    obtain ⟨ending, hended⟩ := h.nodes?_isSome_iff.1 hsome rfl e.1 (List.mem_map_of_mem he)
    rw [reported_of_ended hphase hended, hendingOf e he ending hended]
    rfl
  | false =>
    have hnil : phases e.1 history = [] := by
      by_contra hne
      cases (hkey hne).1
    rw [reported, hnil]
    rfl

/-- Endings of one client do not show in the entries of others. -/
theorem filter_nodes_eq {other : Registry Client} {history' : List Event} {g' : Gathering}
    {nodes' : List RegisteredNode} (h : Follows r enrich history g)
    (h' : Follows other enrich history' g') (hnodes : g.nodes? = some nodes)
    (hnodes' : g'.nodes? = some nodes') (hkeys : other.keys = r.keys) {own : String}
    (hsame : ∀ key ≠ own, ∀ ending,
      .ended key ending ∈ history' ↔ .ended key ending ∈ history) :
    nodes'.filter (·.asset ≠ own) = nodes.filter (·.asset ≠ own) := by
  rw [h.nodes?_eq hnodes, h'.nodes?_eq hnodes', hkeys, List.filter_map, List.filter_map]
  refine List.map_congr_left fun key hkey => ?_
  have hne : key ≠ own := by simpa using (List.mem_filter.1 hkey).2
  obtain ⟨phase, hphase⟩ := (h.orderly key).1
  obtain ⟨phase', hphase'⟩ := (h'.orderly key).1
  have hreported : reported key history' = reported key history := by
    refine Option.ext fun state => ?_
    rw [reported_eq_some_iff hphase', reported_eq_some_iff hphase, hsame key hne]
  rw [hreported]

end Follows

theorem nodes_list (r : Registry Client) (enrich : Bool) :
    (r.list enrich).nodes = r.entries.map fun e =>
      if enrich then Listing.entryOf e.1 e.2.info.ending else .bare e.1 := by
  cases enrich <;> rfl

/-- What a listing says under every interleaving. Let a listing begin on a registry, with or
    without states, and let any history of events follow: tasks asking and ending in any order
    and in any way, and registrations in between. The listing is complete once every task has
    ended. It then has one entry for every key of the registry at the start, in ascending order,
    all of them running, with a state exactly if states are wanted and the client under that key
    answered with it; every client at the start was asked once, or none if states are not wanted,
    and the listing is the one that the endings of those clients give. A client that ends in
    another way changes its own entry only. -/
theorem nodes_of_run (hrun : (start r enrich).run history = some g) :
    (g.nodes?.isSome = true ↔
        (enrich = true → ∀ key ∈ r.keys, ∃ ending, .ended key ending ∈ history)) ∧
      g.calls.Nodup ∧ (∀ call ∈ g.calls, enrich = true ∧ call ∈ r.entries) ∧
      ∀ nodes, g.nodes? = some nodes →
        nodes.map (·.asset) = r.keys ∧
        (nodes.Pairwise fun a b => a.asset < b.asset) ∧
        (∀ node ∈ nodes, node.running = true ∧ ∀ state, node.info = some state ↔
          enrich = true ∧ .ended node.asset (.returned (.ok state)) ∈ history) ∧
        g.calls.Perm (if enrich then r.entries else []) ∧
        (∀ endingOf : String × Client → Ending (NodeResult ChainState),
          (∀ e ∈ r.entries, ∀ ending, .ended e.1 ending ∈ history → ending = endingOf e) →
          nodes = r.entries.map fun e =>
            if enrich then Listing.entryOf e.1 (endingOf e) else .bare e.1) ∧
        ((∀ e ∈ r.entries, ∀ ending,
            .ended e.1 ending ∈ history → ending = e.2.info.ending) →
          nodes = (r.list enrich).nodes) ∧
        (∀ (own : String) (other : Registry Client) (history' : List Event) (g' : Gathering)
          (nodes' : List RegisteredNode), other.keys = r.keys →
          (start other enrich).run history' = some g' → g'.nodes? = some nodes' →
          (∀ key ≠ own, ∀ ending, .ended key ending ∈ history' ↔ .ended key ending ∈ history) →
          nodes'.filter (·.asset ≠ own) = nodes.filter (·.asset ≠ own)) := by
  have h := Follows.of_run hrun
  refine ⟨h.nodes?_isSome_iff, h.calls_nodup, fun call hcall => h.mem_entries_of_call hcall,
    fun nodes hnodes => ?_⟩
  have hassets := h.assets_eq hnodes
  have hascending : r.keys.Pairwise (· < ·) := List.pairwise_map.2 r.ascending
  refine ⟨hassets, ?_, fun node hnode => h.node_of_mem hnodes hnode,
    h.calls_perm (by rw [hnodes]; rfl), fun endingOf => h.nodes_eq_map hnodes, ?_, ?_⟩
  · rw [← hassets] at hascending
    exact List.pairwise_map.1 hascending
  · intro hending
    rw [nodes_list]
    exact h.nodes_eq_map hnodes hending
  · intro own other history' g' nodes' hkeys hrun' hnodes' hsame
    exact h.filter_nodes_eq (Follows.of_run hrun') hnodes hnodes' hkeys hsame

/-- A client whose node never answers. -/
def stalled (asset : String) : Client where
  asset
  info := ⟨none, .aborted⟩
  balance _ := ⟨none, .aborted⟩
  transaction _ := ⟨none, .aborted⟩

/-- A registry of two such clients. -/
def twoStalled : Registry Client :=
  ⟨[("btc", stalled "btc"), ("eth", stalled "eth")], by unfold Keyed.Ascending; decide⟩

/-- The second task ends first, in a panic, and while the first one still waits another client
    takes the key of the second. -/
def reordered : List Event :=
  [.asked "eth", .asked "btc", .ended "eth" .aborted, .registered "ETH" (stalled "xrp"),
    .ended "btc" (.returned (.ok ⟨"main", 7, "00"⟩))]

theorem nodes_of_run_reordered :
    ∃ g, (start twoStalled true).run reordered = some g ∧
      g.nodes? = some [⟨"btc", true, some ⟨"main", 7, "00"⟩⟩, ⟨"eth", true, none⟩] ∧
      g.calls.Perm twoStalled.entries := by
  have hrun : (start twoStalled true).run reordered = some _ := rfl
  obtain ⟨-, -, -, hcomplete⟩ := nodes_of_run hrun
  obtain ⟨-, -, -, hcalls, -⟩ := hcomplete _ rfl
  exact ⟨_, hrun, rfl, hcalls⟩

end AssetOracle.Gathering
