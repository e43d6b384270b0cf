import AssetOracle.Config.Validation
import AssetOracle.Proofs.Text.Blank

/-!
# What a valid configuration is

A configuration is valid if none of its parts breaks a rule. For the nodes this means that each
of them is in order by itself and that no two of them have the same key
(`nodeViolations_eq_nil_iff`). The key of a node is the lower-case form of its trimmed id, so the ids
of nodes with different keys are different in lower case, trimmed or not (`assetKey_congr`).
-/

namespace AssetOracle

@[simp] theorem violationIf_eq_nil_iff {condition : Bool} {violation : Violation} :
    violationIf condition violation = [] ↔ condition = false := by
  cases condition <;> simp [violationIf]

namespace NodeConfig

variable {env : Environment} {node other : NodeConfig}

theorem assetKey_eq_trim (node : NodeConfig) :
    node.assetKey = Text.trim (Text.lowercase node.asset) := by
  rw [assetKey, assetName, Text.trim_lowercase]

/-- Ids that are the same in lower case have the same key. -/
theorem assetKey_congr (h : Text.lowercase node.asset = Text.lowercase other.asset) :
    node.assetKey = other.assetKey := by
  rw [assetKey_eq_trim, assetKey_eq_trim, h]

/-- An id whose lower-case form is the key of a node has that key itself. -/
theorem assetKey_of_lowercase_eq (h : Text.lowercase other.asset = node.assetKey) :
    other.assetKey = node.assetKey := by
  rw [assetKey_eq_trim, h, assetKey_eq_trim, Text.trim_trim]

/-- Whether a node can be asked: its endpoint is a URL, and a token has a contract. -/
def Usable (env : Environment) (node : NodeConfig) : Prop :=
  isUrl (node.endpoint env) = true ∧
    (node.kind = .erc20 → isContract (node.contract.getD "") = true)

theorem usable_of_violations_eq_nil (h : node.violations env = []) : node.Usable env := by
  simp only [violations, List.append_eq_nil_iff, violationIf_eq_nil_iff] at h
  obtain ⟨⟨hurl, -⟩, hcontract⟩ := h
  refine ⟨by simpa using hurl, fun hkind => ?_⟩
  unfold contractViolations at hcontract
  rw [hkind] at hcontract
  cases hgiven : node.contract with
  | none => simp [hgiven] at hcontract
  | some contract => simpa [hgiven] using hcontract

end NodeConfig

namespace Config

variable {env : Environment} {nodes : List NodeConfig} {seen : List String} {index : Nat}

/-- The keys that are taken before a node are those of the nodes before it, so by induction on the
    nodes no two of them are the same. -/
theorem nodeViolations_eq_nil_iff :
    nodeViolations env seen index nodes = [] ↔
      (∀ node ∈ nodes, node.assetName.isEmpty = false ∧ node.violations env = [] ∧
        node.assetKey ∉ seen) ∧ (nodes.map (·.assetKey)).Nodup := by
  induction nodes generalizing seen index with
  | nil => simp [nodeViolations]
  | cons node rest ih =>
    rw [List.forall_mem_cons, List.map_cons, List.nodup_cons, nodeViolations]
    by_cases hempty : node.assetName.isEmpty = true
    · rw [if_pos hempty]
      constructor
      · intro hnil
        cases hnil
      · rintro ⟨⟨⟨hname, -⟩, -⟩, -⟩
        rw [hempty] at hname
        cases hname
    · rw [if_neg hempty, List.append_eq_nil_iff, List.append_eq_nil_iff, violationIf_eq_nil_iff, ih]
      rw [Bool.not_eq_true] at hempty
      constructor
      · rintro ⟨⟨hseen, hnode⟩, hrest, hnodup⟩
        refine ⟨⟨⟨hempty, hnode, by simpa using hseen⟩, fun other hother => ?_⟩, ?_, hnodup⟩
        · obtain ⟨hname, hviolations, hfree⟩ := hrest other hother
          exact ⟨hname, hviolations, fun hmem => hfree (List.mem_cons_of_mem _ hmem)⟩
        · intro hmem
          obtain ⟨other, hother, heq⟩ := List.mem_map.1 hmem
          apply (hrest other hother).2.2
          rw [heq]
          exact List.mem_cons_self
      · rintro ⟨⟨⟨-, hnode, hseen⟩, hrest⟩, hother, hnodup⟩
        refine ⟨⟨by simpa using hseen, hnode⟩, fun other hmem => ?_, hnodup⟩
        obtain ⟨hname, hviolations, hfree⟩ := hrest other hmem
        refine ⟨hname, hviolations, fun hkey => ?_⟩
        rcases List.mem_cons.1 hkey with heq | hkey
        · exact hother (heq ▸ List.mem_map_of_mem hmem)
        · exact hfree hkey

variable {c : Config}

theorem nodeViolations_of_isValid (h : c.isValid env = true) :
    nodeViolations env [] 0 c.nodes = [] := by
  rw [isValid, List.isEmpty_iff, violations] at h
  exact (List.append_eq_nil_iff.1 h).2

theorem usable_of_isValid (h : c.isValid env = true) {node : NodeConfig} (hnode : node ∈ c.nodes) :
    node.Usable env := by
  have hnodes := (nodeViolations_eq_nil_iff.1 (nodeViolations_of_isValid h)).1 node hnode
  exact NodeConfig.usable_of_violations_eq_nil hnodes.2.1

theorem nodup_assetKey_of_isValid (h : c.isValid env = true) :
    (c.nodes.map (·.assetKey)).Nodup :=
  (nodeViolations_eq_nil_iff.1 (nodeViolations_of_isValid h)).2

/-- The ids of a valid configuration are different in lower case even as they are written. -/
theorem nodup_lowercase_of_isValid (h : c.isValid env = true) :
    (c.nodes.map fun node => Text.lowercase node.asset).Nodup := by
  have hkeys := List.pairwise_map.1 (nodup_assetKey_of_isValid h)
  refine List.pairwise_map.2 (hkeys.imp fun {node other} hne heq => ?_)
  apply hne
  exact NodeConfig.assetKey_congr heq

end Config

end AssetOracle
