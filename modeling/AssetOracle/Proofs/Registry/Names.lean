import AssetOracle.Http.Work
import AssetOracle.Proofs.Registry.Bootstrap

/-!
# The names of nodes

Validation knows a node by its id without the white space around it, while the registry knows it by
its id as it is written. So the name that validation gives a node finds the node if and only if its
id has no white space around it (`exists_find?_asset`), and finds nothing otherwise
(`find?_eq_none_of_trim_ne`): no other node of a valid configuration has an id of that form.
-/

namespace AssetOracle.Config

open Registry (ofHistory)
open Text (lowercase trim)

variable {env : Environment} {c : Config} {r : Registry Adapter} {node other : NodeConfig}
  {query : String}

/-- In a valid configuration the key of a node is the lower-case form of no id but its own. -/
theorem eq_of_lowercase_eq_assetKey (hvalid : c.isValid env = true) (hnode : node ∈ c.nodes)
    (hother : other ∈ c.nodes) (h : lowercase other.asset = node.assetKey) : other = node := by
  have hkey := NodeConfig.assetKey_of_lowercase_eq h
  exact List.inj_on_of_nodup_map (nodup_assetKey_of_isValid hvalid) hother hnode hkey

/-- The id of a node as it is written finds the adapter that the node asks for. -/
theorem exists_find?_asset (hvalid : c.isValid env = true) (hr : c.registry env = .ok r)
    (hnode : node ∈ c.nodes) : ∃ a, r.find? node.asset = some a ∧ a.Serves c.timeouts node := by
  obtain ⟨made, hmade, rfl⟩ := registers_of_registry hr
  obtain ⟨⟨id, a⟩, he, hid, -, hserves⟩ := exists_mem_of_mem_left hmade hnode
  refine ⟨a, ?_, hserves⟩
  have hlatest := Registry.latest_of_nodup (nodup_of_registers hvalid hmade) he
  rw [← hid, Registry.find?, Registry.find?_ofHistory, hlatest]

/-- White space around an id hides its node from the name that validation gives it. -/
theorem find?_eq_none_of_trim_ne (hvalid : c.isValid env = true) (hr : c.registry env = .ok r)
    (hnode : node ∈ c.nodes) (hquery : lowercase query = node.assetKey)
    (htrim : trim node.asset ≠ node.asset) : r.find? query = none := by
  obtain ⟨made, hmade, rfl⟩ := registers_of_registry hr
  rw [Registry.find?, Registry.find?_ofHistory, Registry.latest_eq_none_iff, hquery]
  intro e he hkey
  obtain ⟨other, hother, hid, -, -⟩ := exists_mem_of_mem_right hmade he
  rw [hid] at hkey
  -- no node but this one can have such an id, and then it has no blank ends
  have heq := eq_of_lowercase_eq_assetKey hvalid hnode hother hkey
  subst heq
  apply htrim
  exact Text.lowercase_trim_eq_iff.1 hkey.symm

/-- For every node of a valid configuration, the name under which validation knows the node, in any
    case of its letters, finds the node's adapter if and only if the id of the node has no white
    space around it. Otherwise the name is not found, and every request that asks for it by that
    name is told so. -/
theorem get_assetName_iff (hvalid : c.isValid env = true) (hr : c.registry env = .ok r)
    (hnode : node ∈ c.nodes) (hquery : Text.equalsIgnoringCase query node.assetName = true) :
    ∃ a, a.Serves c.timeouts node ∧ r.get node.asset = .ok a ∧
      (r.get query = .ok a ↔ trim node.asset = node.asset) ∧
      (r.get query = .error (.notFound query) ↔ trim node.asset ≠ node.asset) ∧
      (trim node.asset ≠ node.asset → ∀ (view : Adapter → Client) (request : Http.Request),
        Http.Work.ofTarget (r.map view) request (.info query) =
          .answer (.ofError (.assetNotFound query))) := by
  obtain ⟨a, ha, hserves⟩ := exists_find?_asset hvalid hr hnode
  have hkey : lowercase query = node.assetKey := Text.lowercase_eq_of_equalsIgnoringCase hquery
  have hfound : trim node.asset = node.asset → r.find? query = some a := by
    intro htrim
    rw [NodeConfig.assetKey, NodeConfig.assetName, htrim] at hkey
    rw [← ha, Registry.find?, Registry.find?, hkey]
  have hmissed : trim node.asset ≠ node.asset → r.find? query = none :=
    find?_eq_none_of_trim_ne hvalid hr hnode hkey
  refine ⟨a, hserves, Registry.get_eq_ok_iff.2 ha, ?_, ?_, ?_⟩
  · rw [Registry.get_eq_ok_iff]
    refine ⟨fun hget => ?_, hfound⟩
    by_contra htrim
    rw [hmissed htrim] at hget
    cases hget
  · rw [Registry.get_eq_notFound_iff]
    refine ⟨fun hget htrim => ?_, hmissed⟩
    rw [hfound htrim] at hget
    cases hget
  · intro htrim view request
    rw [Http.Work.ofTarget, Http.Work.withClient, Registry.find?_map, hmissed htrim]
    rfl

theorem get_assetName_ofEachKind :
    ∃ r a, ofEachKind.registry (fun _ => none) = .ok r ∧ r.get "btc" = .ok a ∧ a.asset = "BTC" := by
  obtain ⟨r, hr⟩ := exists_registry_iff.2 fun node hnode => usable_of_isValid isValid_ofEachKind hnode
  have hnode : { asset := "BTC", kind := .bitcoin, user := some "u" } ∈ ofEachKind.nodes :=
    List.mem_cons_self
  have hquery : Text.equalsIgnoringCase "btc" (trim "BTC") = true := by decide +kernel
  obtain ⟨a, hserves, -, hget, -, -⟩ := get_assetName_iff isValid_ofEachKind hr hnode hquery
  exact ⟨r, a, hr, hget.2 (by decide +kernel), hserves.asset⟩

/-- A node whose id has white space around it. -/
def blankNode : NodeConfig where
  asset := " BTC "
  kind := .bitcoin
  url := some "http://127.0.0.1:1"

/-- The settings with that node alone. -/
def ofBlankNode : Config where
  nodes := [blankNode]

theorem isValid_ofBlankNode : ofBlankNode.isValid (fun _ => none) = true := by decide +kernel

/-- Validation knows the node as `BTC`, and `BTC` is not found. -/
theorem get_assetName_of_blankNode :
    ofBlankNode.isValid (fun _ => none) = true ∧ blankNode ∈ ofBlankNode.nodes ∧
      blankNode.assetName = "BTC" ∧
      ∃ r, ofBlankNode.registry (fun _ => none) = .ok r ∧ r.get "BTC" = .error (.notFound "BTC") := by
  refine ⟨isValid_ofBlankNode, List.mem_singleton.2 rfl, by decide +kernel, ?_⟩
  obtain ⟨r, hr⟩ := exists_registry_iff.2 fun node hnode => usable_of_isValid isValid_ofBlankNode hnode
  refine ⟨r, hr, Registry.get_eq_notFound_iff.2 ?_⟩
  exact find?_eq_none_of_trim_ne isValid_ofBlankNode hr (List.mem_singleton.2 rfl)
    (by decide +kernel) (by decide +kernel)

end AssetOracle.Config
