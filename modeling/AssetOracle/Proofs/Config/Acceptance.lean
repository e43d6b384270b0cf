import AssetOracle.Proofs.Config.Report
import AssetOracle.Proofs.Result

/-!
# Which configurations are accepted

A configuration is accepted if and only if it is well formed (`Config.isValid_iff_wellFormed`). What
is reported is always a broken rule, and the ids that are reported as repeated are, for each key,
those of the nodes of that key without the first (`Config.violations_exact`).
-/

namespace AssetOracle

variable {env : Environment} {c : Config} {node : NodeConfig} {nodes : List NodeConfig}
  {seen : List String} {index : Nat} {key name : String} {v : Violation}

/-! ## Well-formed configurations -/

/-- Whether a node is in order apart from the ids of other nodes. -/
structure NodeConfig.WellFormed (env : Environment) (node : NodeConfig) : Prop where
  named : Text.trim node.asset ≠ ""
  url : ∃ url, Url.parse? (node.endpoint env) = some url
  credentials : node.user ≠ none ∨ node.password ≠ none → node.kind = .bitcoin
  contract : node.contract ≠ none ↔ node.kind = .erc20
  address : ∀ text, node.contract = some text → ∃ address, Evm.Address.parse text = .ok address

/-- Whether a configuration is in order. -/
structure Config.WellFormed (env : Environment) (c : Config) : Prop where
  listener : ∃ address, Net.SocketAddress.parse? c.listener.address = some address
  metrics : c.observability.metricsEnabled = true →
    ∃ address, Net.SocketAddress.parse? c.observability.metricsAddress = some address
  request : 0 < c.timeouts.request
  rpc : 0 < c.timeouts.rpc
  importing : 0 < c.timeouts.importing
  nodes : ∀ node ∈ c.nodes, node.WellFormed env
  distinct : (c.nodes.map fun node => Text.lowercase (Text.trim node.asset)).Nodup

theorem isSocketAddress_iff {s : String} :
    isSocketAddress s = true ↔ ∃ address, Net.SocketAddress.parse? s = some address :=
  Option.isSome_iff_exists

theorem isUrl_iff {s : String} : isUrl s = true ↔ ∃ url, Url.parse? s = some url :=
  Option.isSome_iff_exists

theorem isContract_iff {s : String} :
    isContract s = true ↔ ∃ address, Evm.Address.parse s = .ok address := by
  rw [isContract, Option.isSome_iff_exists]
  exact exists_congr fun _ => Result.toOption_eq_some_iff

theorem NodeConfig.contractViolations_eq_nil_iff :
    node.contractViolations = [] ↔
      (node.contract ≠ none ↔ node.kind = .erc20) ∧
        ∀ text, node.contract = some text → isContract text = true := by
  cases hcontract : node.contract with
  | none => cases hkind : node.kind <;> simp [contractViolations, hkind, hcontract]
  | some text =>
    cases hkind : node.kind <;>
      simp [contractViolations, hkind, hcontract, violationIf_eq_nil_iff]

theorem NodeConfig.wellFormed_iff :
    node.WellFormed env ↔ node.assetName.isEmpty = false ∧ node.violations env = [] := by
  have hcredentials : (node.kind != .bitcoin && node.hasCredentials) = false ↔
      (node.user ≠ none ∨ node.password ≠ none → node.kind = .bitcoin) := by
    cases node.kind <;> simp [hasCredentials, not_or]
  rw [violations, List.append_eq_nil_iff, List.append_eq_nil_iff, violationIf_eq_nil_iff,
    violationIf_eq_nil_iff, contractViolations_eq_nil_iff, Bool.not_eq_false', isUrl_iff,
    hcredentials]
  constructor
  · intro h
    refine ⟨by simpa [assetName] using h.named, ⟨h.url, h.credentials⟩, h.contract, ?_⟩
    intro text htext
    exact isContract_iff.2 (h.address text htext)
  · rintro ⟨hname, ⟨hurl, hcredentials⟩, hcontract, haddress⟩
    refine ⟨by simpa [assetName] using hname, hurl, hcredentials, hcontract, ?_⟩
    intro text htext
    exact isContract_iff.1 (haddress text htext)

theorem Timeouts.violations_eq_nil_iff {t : Timeouts} :
    t.violations = [] ↔ 0 < t.request ∧ 0 < t.rpc ∧ 0 < t.importing := by
  simp [violations, UInt64.pos_iff_ne_zero]

theorem Config.isValid_iff_wellFormed : c.isValid env = true ↔ c.WellFormed env := by
  have hnodes : nodeViolations env [] 0 c.nodes = [] ↔
      (∀ node ∈ c.nodes, node.WellFormed env) ∧ (c.nodes.map (·.assetKey)).Nodup := by
    simp [nodeViolations_eq_nil_iff, NodeConfig.wellFormed_iff]
  have hmetrics : (c.observability.metricsEnabled &&
      !isSocketAddress c.observability.metricsAddress) = false ↔
        (c.observability.metricsEnabled = true →
          ∃ address, Net.SocketAddress.parse? c.observability.metricsAddress = some address) := by
    rw [← isSocketAddress_iff]
    cases c.observability.metricsEnabled <;> simp
  rw [isValid, List.isEmpty_iff, violations, List.append_eq_nil_iff, List.append_eq_nil_iff,
    List.append_eq_nil_iff, Timeouts.violations_eq_nil_iff, hnodes, Listener.violations,
    Observability.violations, violationIf_eq_nil_iff, violationIf_eq_nil_iff, hmetrics,
    Bool.not_eq_false', isSocketAddress_iff]
  constructor
  · rintro ⟨⟨⟨hlistener, hmetrics⟩, hrequest, hrpc, himporting⟩, hnodes, hdistinct⟩
    exact ⟨hlistener, hmetrics, hrequest, hrpc, himporting, hnodes, hdistinct⟩
  · intro h
    exact ⟨⟨⟨h.listener, h.metrics⟩, h.request, h.rpc, h.importing⟩, h.nodes, h.distinct⟩

/-! ## Repeated ids -/

/-- The id that a violation reports as repeated. -/
def Violation.duplicate? : Violation → Option String
  | .duplicateAssetId asset => some asset
  | _ => none

theorem duplicate?_violationIf {condition : Bool} (h : v.duplicate? = none) :
    (violationIf condition v).filterMap Violation.duplicate? = [] := by
  cases condition <;> simp [violationIf, h]

theorem NodeConfig.duplicate?_contractViolations (node : NodeConfig) :
    node.contractViolations.filterMap Violation.duplicate? = [] := by
  cases hcontract : node.contract <;> cases hkind : node.kind <;>
    simp [contractViolations, hcontract, hkind, violationIf, Violation.duplicate?]

theorem NodeConfig.duplicate?_violations (env : Environment) (node : NodeConfig) :
    (node.violations env).filterMap Violation.duplicate? = [] := by
  rw [violations, List.filterMap_append, List.filterMap_append, duplicate?_violationIf rfl,
    duplicate?_violationIf rfl, duplicate?_contractViolations]
  rfl

namespace Config

/-- The ids that are reported as repeated, in the order of the report. -/
def duplicates (env : Environment) (c : Config) : List String :=
  (c.violations env).filterMap Violation.duplicate?

theorem duplicates_eq (env : Environment) (c : Config) :
    c.duplicates env = (nodeViolations env [] 0 c.nodes).filterMap Violation.duplicate? := by
  rw [duplicates, violations, Listener.violations, Observability.violations, Timeouts.violations]
  simp only [List.filterMap_append]
  rw [duplicate?_violationIf rfl, duplicate?_violationIf rfl, duplicate?_violationIf rfl,
    duplicate?_violationIf rfl, duplicate?_violationIf rfl]
  rfl

/-- What is reported as repeated under a key are the ids of the nodes of that key, without the first
    one unless the key is taken before. -/
theorem duplicates_nodeViolations (hkey : key ≠ "") :
    ((nodeViolations env seen index nodes).filterMap Violation.duplicate?).filter
        (Text.lowercase · = key) =
      ((nodes.filter (·.assetKey = key)).drop (if key ∈ seen then 0 else 1)).map (·.assetName) := by
  induction nodes generalizing seen index with
  | nil => simp [nodeViolations]
  | cons node rest ih =>
    rw [nodeViolations]
    by_cases hname : node.assetName = ""
    · have hother : node.assetKey ≠ key := by
        rw [NodeConfig.assetKey_eq_empty_iff.2 hname]
        exact hkey.symm
      rw [if_pos (by simp [hname]), List.filter_cons_of_neg (by simpa using hother), ← ih]
      rfl
    · rw [if_neg (by simpa using hname)]
      simp only [List.filterMap_append, NodeConfig.duplicate?_violations, List.append_nil,
        List.filter_append, ih]
      by_cases hself : node.assetKey = key
      · have hlower : Text.lowercase node.assetName = key := hself
        by_cases hseen : key ∈ seen
        · simp [violationIf, Violation.duplicate?, hself, hlower, hseen]
        · simp [violationIf, Violation.duplicate?, hself, hseen]
      · have hlower : Text.lowercase node.assetName ≠ key := hself
        have hrest : key ∈ node.assetKey :: seen ↔ key ∈ seen := by
          simp [Ne.symm hself]
        cases hseen : seen.contains node.assetKey <;>
          simp [violationIf, Violation.duplicate?, hself, hlower, hrest]

/-- A blank id is not reported as repeated. -/
theorem lowercase_ne_empty_of_mem_duplicates (h : name ∈ c.duplicates env) :
    Text.lowercase name ≠ "" := by
  obtain ⟨v, hv, hname⟩ := List.mem_filterMap.1 h
  rcases exists_rule_of_mem hv with ⟨rule, -, rfl⟩ | ⟨i, node, rule, -, hrule, rfl⟩
  · cases rule <;> cases hname
  · cases rule with
    | distinct =>
      obtain rfl : node.assetName = name := Option.some.inj hname
      have hnamed := (NodeConfig.mem_reported.1 hrule).2.resolve_left (by decide)
      rwa [Ne, Text.lowercase_eq_empty_iff]
    | named => cases hname
    | url => cases hname
    | credentials => cases hname
    | contractGiven => cases hname
    | contractAddress => cases hname
    | contractAllowed => cases hname

theorem emptyAssetId_mem_violations_iff : .emptyAssetId index ∈ c.violations env ↔
    ∃ node, c.nodes[index]? = some node ∧ node.assetName = "" := by
  constructor
  · intro h
    rcases exists_rule_of_mem h with ⟨rule, -, heq⟩ | ⟨i, node, rule, hnode, hrule, heq⟩
    · cases rule <;> cases heq
    · cases rule <;> cases heq
      exact ⟨node, hnode, (NodeConfig.mem_reported.1 hrule).1⟩
  · rintro ⟨node, hnode, hname⟩
    exact (entry_mem_violations hnode hname (.inl rfl) :
      node.entry env index .named ∈ c.violations env)

/-- Validation accepts a configuration if and only if it is well formed. Every entry of the report
    is of a rule that the sections or a node break. For every key that is not blank, the ids that
    are reported as repeated are those of the nodes of that key in the order of the file, without
    the first: one fewer than there are such nodes. A blank id is never reported as repeated; each
    node that has one is reported as blank under its position, and no other position is. -/
theorem violations_exact (env : Environment) (c : Config) :
    (c.isValid env = true ↔ c.WellFormed env) ∧
    (∀ v ∈ c.violations env, (∃ rule, c.Breaks rule ∧ v = c.entry rule) ∨
      ∃ (i : Nat) (node : NodeConfig) (rule : NodeRule), c.nodes[i]? = some node ∧
        node.Breaks env (c.nodes.take i) rule ∧ v = node.entry env i rule) ∧
    (∀ key, key ≠ "" →
      (c.duplicates env).filter (Text.lowercase · = key) =
          ((c.nodes.filter (·.assetKey = key)).drop 1).map (·.assetName) ∧
        ((c.duplicates env).filter (Text.lowercase · = key)).length =
          c.nodes.countP (·.assetKey = key) - 1) ∧
    (c.duplicates env).filter (Text.lowercase · = "") = [] ∧
    ∀ i, .emptyAssetId i ∈ c.violations env ↔
      ∃ node, c.nodes[i]? = some node ∧ node.assetName = "" := by
  refine ⟨isValid_iff_wellFormed, fun v hv => ?_, fun key hkey => ?_, ?_, fun i => ?_⟩
  · rcases exists_rule_of_mem hv with hrule | ⟨i, node, rule, hnode, hrule, rfl⟩
    · exact .inl hrule
    · exact .inr ⟨i, node, rule, hnode, (NodeConfig.mem_reported.1 hrule).1, rfl⟩
  · have hnames : (c.duplicates env).filter (Text.lowercase · = key) =
        ((c.nodes.filter (·.assetKey = key)).drop 1).map (·.assetName) := by
      rw [duplicates_eq, duplicates_nodeViolations hkey]
      rfl
    refine ⟨hnames, ?_⟩
    rw [hnames, List.length_map, List.length_drop, List.countP_eq_length_filter]
  · rw [List.filter_eq_nil_iff]
    intro name hname
    simpa using lowercase_ne_empty_of_mem_duplicates hname
  · exact emptyAssetId_mem_violations_iff

/-- Three spellings of one id, and a node that has no id. -/
def ofSpellings : Config where
  nodes := [
    { asset := "BTC", kind := .bitcoin }, { asset := "", kind := .evm },
    { asset := " btc", kind := .bitcoin }, { asset := "Btc ", kind := .bitcoin }]

theorem violations_exact_ofSpellings :
    (ofSpellings.duplicates fun _ => none).filter (Text.lowercase · = "btc") = ["btc", "Btc"] := by
  have hrepeated := (violations_exact (fun _ => none) ofSpellings).2.2.1 "btc" (by decide)
  rw [hrepeated.1]
  decide +kernel

/-- Two nodes without an id have the same blank key, and neither is reported as repeated. -/
theorem duplicates_of_two_blank :
    let c : Config := { nodes := [namelessNode, namelessNode] }
    c.nodes.countP (·.assetKey = "") - 1 = 1 ∧
      ((c.duplicates fun _ => none).filter (Text.lowercase · = "")).length = 0 := by
  decide +kernel

end Config

end AssetOracle
