import Mathlib.Data.Bool.Count
import AssetOracle.Metrics

/-!
# What is counted of a node

The counters and the gauge of a node depend on what was counted of that node only
(`outcome?`): the counters count its outcomes, and the gauge is the last of them.
-/

namespace AssetOracle.Metric

/-- Whether a node answered, if an event is about asking that node. -/
def outcome? (key : String) : Metric → Option Bool
  | .nodeInfo asset ok => if asset = key then some ok else none
  | _ => none

variable {events : List Metric} {key : String} {ok : Bool}

theorem outcome?_eq_some_iff {event : Metric} :
    outcome? key event = some ok ↔ event = .nodeInfo key ok := by
  cases event with
  | request route status => simp [outcome?]
  | nodeInfo asset other => simp [outcome?]
  | slowOperation operation outcome => simp [outcome?]

theorem nodeInfos_eq_count :
    nodeInfos events key ok = (events.filterMap (outcome? key)).count ok := by
  rw [nodeInfos, List.count_filterMap, List.count_eq_countP]
  refine List.countP_congr fun event _ => ?_
  rw [beq_iff_eq, beq_iff_eq, outcome?_eq_some_iff]

theorem nodeUp_append_singleton (event : Metric) :
    nodeUp (events ++ [event]) key = (outcome? key event).or (nodeUp events key) := by
  rw [nodeUp, List.foldl_append]
  cases event with
  | request route status => rfl
  | nodeInfo asset other =>
    rw [outcome?]
    change (if asset = key then some other else nodeUp events key) = _
    split <;> rfl
  | slowOperation operation outcome => rfl

theorem nodeUp_eq_getLast? : nodeUp events key = (events.filterMap (outcome? key)).getLast? := by
  induction events using List.reverseRecOn with
  | nil => rfl
  | append_singleton events event ih =>
    rw [nodeUp_append_singleton, ih, List.filterMap_append, List.getLast?_append]
    congr 1
    cases hevent : outcome? key event <;> simp [hevent]

/-- The counters of both outcomes count every time that the node was asked. -/
theorem nodeInfos_add :
    nodeInfos events key true + nodeInfos events key false =
      (events.filterMap (outcome? key)).length := by
  rw [nodeInfos_eq_count, nodeInfos_eq_count, List.count_true_add_count_false]

/-! ## The page -/

theorem mem_insertLine {line other : String} {lines : List String} :
    line ∈ insertLine other lines ↔ line = other ∨ line ∈ lines := by
  induction lines with
  | nil => simp [insertLine]
  | cons first rest ih =>
    rw [insertLine]
    split
    · exact List.mem_cons
    · split
      · rename_i heq
        simp [heq]
      · rw [List.mem_cons, ih, List.mem_cons]
        exact or_left_comm

/-- The lines of a page are those of the events. -/
theorem mem_page {line : String} :
    line ∈ page events ↔ ∃ event ∈ events, line ∈ linesOf events event := by
  have hfold (found lines : List String) :
      line ∈ lines.foldl (fun lines line => insertLine line lines) found ↔
        line ∈ found ∨ line ∈ lines := by
    induction lines generalizing found with
    | nil => simp
    | cons first rest ih =>
      rw [List.foldl_cons, ih, mem_insertLine, List.mem_cons, or_assoc, or_left_comm]
  rw [page, hfold, List.mem_flatMap]
  simp

/-- The gauge of a node is on the page. -/
theorem gauge_mem_page (h : nodeUp events key = some ok) :
    labelled "oracle_node_up" [("asset", key)] (if ok then 1 else 0) ∈ page events := by
  have hlast : ok ∈ events.filterMap (outcome? key) := by
    rw [nodeUp_eq_getLast?] at h
    exact List.mem_of_getLast? h
  obtain ⟨event, hmem, hevent⟩ := List.mem_filterMap.1 hlast
  obtain rfl := outcome?_eq_some_iff.1 hevent
  refine mem_page.2 ⟨_, hmem, ?_⟩
  rw [linesOf, h]
  simp

end AssetOracle.Metric
