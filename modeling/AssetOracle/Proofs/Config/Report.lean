import Mathlib.Data.List.Basic
import AssetOracle.Proofs.Config.Validation

/-!
# What validation reports

The rules that a configuration has to keep, stated one by one (`Config.Breaks`,
`NodeConfig.Breaks`), and the entry that tells of each broken one. The report is the list of the
broken rules in their order, of the sections first and then node by node
(`Config.violations_eq`); only a node without an id is not looked at any further, so that its other
faults are not reported before it has one.
-/

namespace AssetOracle

variable {env : Environment} {c : Config} {node other : NodeConfig} {earlier : List NodeConfig}
  {nodes : List NodeConfig} {seen : List String} {index : Nat} {key : String}

/-! ## The rules -/

/-- The rules for the sections of a configuration. -/
inductive SectionRule where
  | bindAddress
  | metricsAddress
  | requestTime
  | rpcTime
  | importTime
deriving DecidableEq

/-- The rules for a node. -/
inductive NodeRule where
  | named
  | distinct
  | url
  | credentials
  | contractGiven
  | contractAddress
  | contractAllowed
deriving DecidableEq

/-- The rules for sections in the order of the report. -/
def SectionRule.all : List SectionRule :=
  [.bindAddress, .metricsAddress, .requestTime, .rpcTime, .importTime]

/-- The rules for a node in the order of the report. -/
def NodeRule.all : List NodeRule :=
  [.named, .distinct, .url, .credentials, .contractGiven, .contractAddress, .contractAllowed]

theorem SectionRule.mem_all (rule : SectionRule) : rule ∈ all := by cases rule <;> decide

theorem NodeRule.mem_all (rule : NodeRule) : rule ∈ all := by cases rule <;> decide

namespace Config

/-- Whether the sections break a rule. -/
def Breaks (c : Config) : SectionRule → Prop
  | .bindAddress => isSocketAddress c.listener.address = false
  | .metricsAddress =>
    c.observability.metricsEnabled = true ∧
      isSocketAddress c.observability.metricsAddress = false
  | .requestTime => c.timeouts.request = 0
  | .rpcTime => c.timeouts.rpc = 0
  | .importTime => c.timeouts.importing = 0

instance (c : Config) : DecidablePred c.Breaks
  | .bindAddress => inferInstanceAs (Decidable (_ = _))
  | .metricsAddress => inferInstanceAs (Decidable (_ ∧ _))
  | .requestTime => inferInstanceAs (Decidable (_ = _))
  | .rpcTime => inferInstanceAs (Decidable (_ = _))
  | .importTime => inferInstanceAs (Decidable (_ = _))

/-- The entry for a rule that the sections break. -/
def entry (c : Config) : SectionRule → Violation
  | .bindAddress => .bindAddress c.listener.address
  | .metricsAddress => .metricsAddress c.observability.metricsAddress
  | .requestTime => .zeroTimeout "request_secs"
  | .rpcTime => .zeroTimeout "rpc_secs"
  | .importTime => .zeroTimeout "import_secs"

/-- The rules that the sections break. -/
def broken (c : Config) : List SectionRule := SectionRule.all.filter (c.Breaks ·)

end Config

namespace NodeConfig

/-- Whether a node breaks a rule when it comes after the nodes in `earlier`. -/
def Breaks (env : Environment) (earlier : List NodeConfig) (node : NodeConfig) : NodeRule → Prop
  | .named => node.assetName = ""
  | .distinct => ∃ other ∈ earlier, other.assetKey = node.assetKey
  | .url => isUrl (node.endpoint env) = false
  | .credentials => node.kind ≠ .bitcoin ∧ (node.user ≠ none ∨ node.password ≠ none)
  | .contractGiven => node.kind = .erc20 ∧ node.contract = none
  | .contractAddress => node.kind = .erc20 ∧ ∃ text ∈ node.contract, isContract text = false
  | .contractAllowed => node.kind ≠ .erc20 ∧ node.contract ≠ none

instance (env : Environment) (earlier : List NodeConfig) (node : NodeConfig) :
    DecidablePred (node.Breaks env earlier)
  | .named => inferInstanceAs (Decidable (_ = _))
  | .distinct => inferInstanceAs (Decidable (∃ other ∈ earlier, other.assetKey = node.assetKey))
  | .url => inferInstanceAs (Decidable (_ = _))
  | .credentials => inferInstanceAs (Decidable (_ ∧ _))
  | .contractGiven => inferInstanceAs (Decidable (_ ∧ _))
  | .contractAddress =>
    inferInstanceAs (Decidable (_ ∧ ∃ text ∈ node.contract, isContract text = false))
  | .contractAllowed => inferInstanceAs (Decidable (_ ∧ _))

/-- The entry for a rule that the node at position `index` breaks. -/
def entry (env : Environment) (index : Nat) (node : NodeConfig) : NodeRule → Violation
  | .named => .emptyAssetId index
  | .distinct => .duplicateAssetId node.assetName
  | .url => .invalidUrl node.assetName (node.endpoint env)
  | .credentials => .unexpectedCredentials node.assetName
  | .contractGiven => .missingContract node.assetName
  | .contractAddress => .invalidContract node.assetName (node.contract.getD "")
  | .contractAllowed => .unexpectedContract node.assetName

/-- The broken rules that are reported of a node: all of them if it has an id, else only that it
    has none. -/
def reported (env : Environment) (earlier : List NodeConfig) (node : NodeConfig) : List NodeRule :=
  NodeRule.all.filter fun rule =>
    node.Breaks env earlier rule ∧ (rule = .named ∨ node.assetName ≠ "")

/-- The entries for a node at a position among all nodes. -/
def entries (env : Environment) (nodes : List NodeConfig) (index : Nat) (node : NodeConfig) :
    List Violation :=
  (node.reported env (nodes.take index)).map (node.entry env index)

theorem assetKey_eq_empty_iff : node.assetKey = "" ↔ node.assetName = "" :=
  Text.lowercase_eq_empty_iff

theorem mem_reported {rule : NodeRule} :
    rule ∈ node.reported env earlier ↔
      node.Breaks env earlier rule ∧ (rule = .named ∨ node.assetName ≠ "") := by
  simp [reported, NodeRule.mem_all]

end NodeConfig

/-! ## The report -/

section Entries

variable {α : Type} {p : α → Prop} [DecidablePred p] {f : α → Violation} {a : α} {as : List α}
  {condition : Bool} {v : Violation} {vs : List Violation}

theorem violationIf_eq (hcondition : condition = true ↔ p a) (hv : v = f a) :
    violationIf condition v = ([a].filter (p ·)).map f := by
  by_cases h : p a <;> simp [violationIf, hcondition, hv, h]

/-- The entry for the first of several rules, in front of the entries for the others. -/
theorem violationIf_append (hcondition : condition = true ↔ p a) (hv : v = f a)
    (hvs : vs = (as.filter (p ·)).map f) :
    violationIf condition v ++ vs = ((a :: as).filter (p ·)).map f := by
  by_cases h : p a <;> simp [violationIf, hcondition, hv, hvs, h]

end Entries

theorem Config.sections_eq (c : Config) :
    c.listener.violations ++ c.observability.violations ++ c.timeouts.violations =
      c.broken.map c.entry := by
  simp only [Listener.violations, Observability.violations, Timeouts.violations, List.append_assoc]
  refine violationIf_append (by simp [Breaks]) rfl ?_
  refine violationIf_append (by simp [Breaks]) rfl ?_
  refine violationIf_append (by simp [Breaks]) rfl ?_
  refine violationIf_append (by simp [Breaks]) rfl ?_
  exact violationIf_eq (by simp [Breaks]) rfl

namespace NodeConfig

theorem contractViolations_eq (env : Environment) (earlier : List NodeConfig) (index : Nat)
    (hname : node.assetName ≠ "") : node.contractViolations =
      (([.contractGiven, .contractAddress, .contractAllowed] : List NodeRule).filter fun rule =>
        node.Breaks env earlier rule ∧ (rule = .named ∨ node.assetName ≠ "")).map
          (node.entry env index) := by
  cases hcontract : node.contract with
  | none =>
    cases hkind : node.kind <;> simp [contractViolations, Breaks, entry, hkind, hcontract, hname]
  | some text =>
    cases hkind : node.kind <;> cases hvalid : isContract text <;>
      simp [contractViolations, violationIf, Breaks, entry, hkind, hcontract, hname, hvalid]

/-- What is reported of a node after the nodes whose keys are in `seen`. -/
theorem violations_eq (hname : node.assetName ≠ "")
    (hseen : node.assetKey ∈ seen ↔ ∃ other ∈ earlier, other.assetKey = node.assetKey) :
    violationIf (seen.contains node.assetKey) (.duplicateAssetId node.assetName) ++
        node.violations env =
      (node.reported env earlier).map (node.entry env index) := by
  have hnamed : node.reported env earlier =
      (NodeRule.all.tail.filter fun rule =>
        node.Breaks env earlier rule ∧ (rule = .named ∨ node.assetName ≠ "")) := by
    simp [reported, NodeRule.all, Breaks, hname]
  rw [hnamed, violations]
  simp only [List.append_assoc]
  refine violationIf_append (by simp [Breaks, hname, hseen]) rfl ?_
  refine violationIf_append (by simp [Breaks, hname]) rfl ?_
  refine violationIf_append ?_ rfl (contractViolations_eq env earlier index hname)
  simp [Breaks, hname, hasCredentials, Option.isSome_iff_ne_none]

/-- A node without an id is reported as such, and nothing else is reported of it. -/
theorem reported_of_blank (hname : node.assetName = "") : node.reported env earlier = [.named] := by
  simp [reported, NodeRule.all, Breaks, hname]

end NodeConfig

namespace Config

/-- Whether the keys in `seen` are those of the earlier nodes that have an id. -/
def Taken (seen : List String) (earlier : List NodeConfig) : Prop :=
  ∀ key, key ∈ seen ↔ ∃ node ∈ earlier, node.assetName ≠ "" ∧ node.assetKey = key

/-- A node that has the key of a node with an id has an id itself. -/
theorem Taken.mem_iff (h : Taken seen earlier) (hname : node.assetName ≠ "") :
    node.assetKey ∈ seen ↔ ∃ other ∈ earlier, other.assetKey = node.assetKey := by
  have hkey : ∀ other : NodeConfig, other.assetKey = node.assetKey → other.assetName ≠ "" := by
    intro other heq hblank
    rw [← NodeConfig.assetKey_eq_empty_iff, heq, NodeConfig.assetKey_eq_empty_iff] at hblank
    exact hname hblank
  rw [h]
  constructor
  · rintro ⟨other, hother, -, heq⟩
    exact ⟨other, hother, heq⟩
  · rintro ⟨other, hother, heq⟩
    exact ⟨other, hother, hkey other heq, heq⟩

theorem Taken.append_blank (h : Taken seen earlier) (hname : node.assetName = "") :
    Taken seen (earlier ++ [node]) := by
  intro key
  rw [h]
  simp [or_and_right, exists_or, hname]

theorem Taken.cons (h : Taken seen earlier) (hname : node.assetName ≠ "") :
    Taken (node.assetKey :: seen) (earlier ++ [node]) := by
  intro key
  rw [List.mem_cons, h, eq_comm]
  simp [or_and_right, exists_or, hname, or_comm]

/-- What is reported of nodes that come after others: each adds its own entries. -/
theorem nodeViolations_eq (h : Taken seen earlier) :
    nodeViolations env seen earlier.length nodes =
      (nodes.zipIdx earlier.length).flatMap fun e => e.1.entries env (earlier ++ nodes) e.2 := by
  induction nodes generalizing seen earlier with
  | nil => rfl
  | cons node rest ih =>
    have hall : earlier ++ node :: rest = (earlier ++ [node]) ++ rest := by simp
    have hlength : earlier.length + 1 = (earlier ++ [node]).length := by simp
    have hself : node.entries env (earlier ++ node :: rest) earlier.length =
        (node.reported env earlier).map (node.entry env earlier.length) := by
      simp [NodeConfig.entries]
    rw [List.zipIdx_cons, List.flatMap_cons, hself, nodeViolations, hall, hlength]
    by_cases hname : node.assetName = ""
    · rw [if_pos (by simp [hname]), NodeConfig.reported_of_blank hname, ih (h.append_blank hname)]
      rfl
    · rw [if_neg (by simpa using hname), NodeConfig.violations_eq hname (h.mem_iff hname),
        ih (h.cons hname)]

/-- The report is the list of the broken rules in their order. -/
theorem violations_eq (env : Environment) (c : Config) :
    c.violations env = c.broken.map c.entry ++
      c.nodes.zipIdx.flatMap fun e => e.1.entries env c.nodes e.2 := by
  have htaken : Taken [] [] := by simp [Taken]
  rw [violations, sections_eq]
  exact congrArg _ (nodeViolations_eq htaken)

end Config

/-! ## What the report keeps back -/

theorem NodeConfig.entry_eq {other : NodeConfig} {i : Nat} {rule rule' : NodeRule}
    (h : node.entry env index rule = other.entry env i rule') :
    rule = rule' ∧ (rule = .named ∨ node.assetName = other.assetName) := by
  cases rule <;> cases rule' <;> simp_all [entry]

namespace Config

/-- What is reported is a rule that the sections break, or one that a node breaks. -/
theorem exists_rule_of_mem (h : v ∈ c.violations env) :
    (∃ rule, c.Breaks rule ∧ v = c.entry rule) ∨
      ∃ (i : Nat) (node : NodeConfig) (rule : NodeRule), c.nodes[i]? = some node ∧
        rule ∈ node.reported env (c.nodes.take i) ∧ v = node.entry env i rule := by
  rw [violations_eq, List.mem_append] at h
  rcases h with h | h
  · obtain ⟨rule, hrule, rfl⟩ := List.mem_map.1 h
    exact .inl ⟨rule, by simpa using (List.mem_filter.1 hrule).2, rfl⟩
  · obtain ⟨⟨node, i⟩, hnode, h⟩ := List.mem_flatMap.1 h
    obtain ⟨rule, hrule, rfl⟩ := List.mem_map.1 h
    exact .inr ⟨i, node, rule, List.mem_zipIdx_iff_getElem?.1 hnode, hrule, rfl⟩

/-- The entry for a node is in the report only if the node has an id, or for having none. -/
theorem named_of_entry_mem_violations {rule : NodeRule}
    (h : node.entry env index rule ∈ c.violations env) : rule = .named ∨ node.assetName ≠ "" := by
  rcases exists_rule_of_mem h with ⟨rule', -, heq⟩ | ⟨i, other, rule', -, hreported, heq⟩
  · cases rule <;> cases rule' <;> cases heq
  · obtain ⟨rfl, hnamed | hname⟩ := NodeConfig.entry_eq heq
    · exact .inl hnamed
    · rw [hname]
      exact (NodeConfig.mem_reported.1 hreported).2

theorem entry_mem_violations {rule : NodeRule} (hnode : c.nodes[index]? = some node)
    (hbreaks : node.Breaks env (c.nodes.take index) rule)
    (hnamed : rule = .named ∨ node.assetName ≠ "") :
    node.entry env index rule ∈ c.violations env := by
  rw [violations_eq, List.mem_append]
  refine .inr (List.mem_flatMap.2 ⟨(node, index), List.mem_zipIdx_iff_getElem?.2 hnode, ?_⟩)
  exact List.mem_map_of_mem (NodeConfig.mem_reported.2 ⟨hbreaks, hnamed⟩)

/-- The report has an entry for every rule that the sections break. It has an entry for a rule that
    a node breaks if and only if the node has an id or the rule is to have one. So what comes to
    light only after a repair, although it was there before, is a fault of a node that had no id
    and was given one. -/
theorem violations_complete_iff (env : Environment) (c : Config) :
    (∀ rule, c.Breaks rule → c.entry rule ∈ c.violations env) ∧
    (∀ (i : Nat) (node : NodeConfig) (rule : NodeRule), c.nodes[i]? = some node →
      node.Breaks env (c.nodes.take i) rule →
        (node.entry env i rule ∈ c.violations env ↔ rule = .named ∨ node.assetName ≠ "")) ∧
    ∀ (repaired : Config) (i : Nat) (node node' : NodeConfig) (rule : NodeRule),
      c.nodes[i]? = some node → repaired.nodes[i]? = some node' →
      node.Breaks env (c.nodes.take i) rule → node.entry env i rule ∉ c.violations env →
        node'.entry env i rule ∈ repaired.violations env →
          node.assetName = "" ∧ node'.assetName ≠ "" := by
  refine ⟨fun rule hrule => ?_, fun i node rule hnode hbreaks => ?_, ?_⟩
  · have hbroken : rule ∈ c.broken := by simp [broken, SectionRule.mem_all, hrule]
    rw [violations_eq]
    exact List.mem_append_left _ (List.mem_map_of_mem hbroken)
  · exact ⟨named_of_entry_mem_violations, entry_mem_violations hnode hbreaks⟩
  · intro repaired i node node' rule hnode _ hbreaks hhidden hshown
    have hkept : ¬(rule = .named ∨ node.assetName ≠ "") :=
      fun hnamed => hhidden (entry_mem_violations hnode hbreaks hnamed)
    rw [not_or, not_not] at hkept
    exact ⟨hkept.2, (named_of_entry_mem_violations hshown).resolve_left hkept.1⟩

/-- A node without an id, which sets a user name that its kind does not have. -/
def namelessNode : NodeConfig where
  asset := ""
  kind := .evm
  user := some "u"

/-- The settings with that node alone. -/
def ofNamelessNode : Config where
  nodes := [namelessNode]

theorem violations_complete_iff_namelessNode :
    namelessNode.Breaks (fun _ => none) [] .credentials ∧
      namelessNode.entry (fun _ => none) 0 .credentials ∉
        ofNamelessNode.violations fun _ => none := by
  have hbreaks : namelessNode.Breaks (fun _ => none) [] .credentials := by decide
  refine ⟨hbreaks, fun hmem => ?_⟩
  have hnamed := ((violations_complete_iff (fun _ => none) ofNamelessNode).2.1 0 namelessNode
    .credentials rfl hbreaks).1 hmem
  exact absurd hnamed (by decide +kernel)

/-- The user name is against the rules from the beginning, but it is reported only once the node
    has an id. -/
theorem violations_of_namelessNode :
    namelessNode.Breaks (fun _ => none) [] .credentials ∧
      ofNamelessNode.violations (fun _ => none) = [.emptyAssetId 0] ∧
      violations (fun _ => none) { nodes := [{ namelessNode with asset := "ETH" }] } =
        [.unexpectedCredentials "ETH"] := by
  decide +kernel

end Config

end AssetOracle
