import AssetOracle.Proofs.Config.Validation
import AssetOracle.Proofs.Registry.Bindings
import AssetOracle.Proofs.Result
import AssetOracle.Registry.Bootstrap

/-!
# The registry of a configuration

A registry is built if and only if every node can be asked (`Config.exists_registry_iff`), and then
it holds what the nodes register, in their order (`Config.registers_of_registry`). What the nodes
before have opened and share does not matter, for nothing is opened without a URL
(`Sharing.Sound`).
-/

namespace AssetOracle

open Text (lowercase)

/-! ## Constructors that are run in order -/

section Construct

variable {α : Type} {r r' : Registry α} {entries : List (String × NodeResult α)}

theorem constructFrom_result_eq_ok_iff :
    (constructFrom r entries).result = .ok r' ↔ ∃ made : List (String × α),
      entries = made.map (fun e => (e.1, .ok e.2)) ∧
        r' = made.foldl (fun r e => r.register e.1 e.2) r := by
  induction entries generalizing r with
  | nil =>
    simp only [constructFrom, Except.ok.injEq]
    constructor
    · rintro rfl
      exact ⟨[], rfl, rfl⟩
    · rintro ⟨made, hmade, rfl⟩
      cases made with
      | nil => rfl
      | cons => cases hmade
  | cons entry rest ih =>
    obtain ⟨id, outcome⟩ := entry
    cases outcome with
    | error e =>
      simp only [constructFrom]
      constructor
      · intro h
        cases h
      · rintro ⟨made, hmade, -⟩
        cases made <;> cases hmade
    | ok client =>
      simp only [constructFrom, ih]
      constructor
      · rintro ⟨made, rfl, rfl⟩
        exact ⟨(id, client) :: made, rfl, rfl⟩
      · rintro ⟨made, hmade, rfl⟩
        cases made with
        | nil => cases hmade
        | cons e made =>
          obtain ⟨id', client'⟩ := e
          cases hmade
          exact ⟨made, rfl, rfl⟩

/-- Constructors make a registry if each of them makes a client, and then it is the registry after
    these registrations. -/
theorem construct_result_eq_ok_iff :
    (construct entries).result = .ok r' ↔ ∃ made : List (String × α),
      entries = made.map (fun e => (e.1, .ok e.2)) ∧ r' = .ofHistory made :=
  constructFrom_result_eq_ok_iff

end Construct

/-! ## The constructor of a node -/

/-- Whether an adapter is the one that a node asks for. -/
structure Adapter.Serves (a : Adapter) (t : Timeouts) (node : NodeConfig) : Prop where
  asset : a.asset = node.asset
  kind : a.kind = node.kind
  importing : ∀ c, a = .bitcoin c → c.importing = Bootstrap.importOperationOf t

theorem Adapter.Serves.of_ne_bitcoin {a : Adapter} {t : Timeouts} {node : NodeConfig}
    (hasset : a.asset = node.asset) (hkind : a.kind = node.kind) (h : a.kind ≠ .bitcoin) :
    a.Serves t node := by
  refine ⟨hasset, hkind, ?_⟩
  rintro c rfl
  exact absurd rfl h

theorem NodeConfig.Usable.of_ne_erc20 {env : Environment} {node : NodeConfig}
    (hurl : isUrl (node.endpoint env) = true) (h : node.kind ≠ .erc20) : node.Usable env :=
  ⟨hurl, fun hkind => absurd hkind h⟩

/-- What is registered for a node whose constructor succeeds. -/
structure NodeConfig.Registers (env : Environment) (t : Timeouts) (node : NodeConfig)
    (e : String × Adapter) : Prop where
  id : e.1 = node.asset
  usable : node.Usable env
  serves : e.2.Serves t node

/-- Whether nothing is shared but what has been opened under a URL. -/
structure Sharing.Sound (s : Sharing) : Prop where
  links : ∀ endpoint user password link,
    s.links.lookup (endpoint, user, password) = some link → isUrl endpoint = true
  hosts : ∀ endpoint channel, s.hosts.lookup endpoint = some channel → isUrl endpoint = true

theorem Sharing.sound_empty : ({} : Sharing).Sound where
  links _ _ _ _ h := by cases h
  hosts _ _ h := by cases h

section Table

variable {κ β : Type} [BEq κ] {entries : List (κ × β)} {key query : κ}
  {value found : β}

/-- A table to which an entry is added has the entries it had, and that one if its key is new. -/
theorem lookup_append_singleton : (entries ++ [(key, value)]).lookup query =
    (entries.lookup query).or (if query == key then some value else none) := by
  rw [List.lookup_append, List.lookup_cons, List.lookup_nil]
  cases query == key <;> rfl

theorem lookup_or_eq_of_append [LawfulBEq κ]
    (h : (entries ++ [(key, value)]).lookup query = some found) :
    entries.lookup query = some found ∨ query = key := by
  rw [lookup_append_singleton] at h
  by_cases hkey : query = key
  · exact .inr hkey
  · rw [beq_false_of_ne hkey] at h
    exact .inl (by simpa using h)

end Table

namespace Bootstrap

variable {env : Environment} {t : Timeouts} {s s' : Sharing} {node : NodeConfig}
  {endpoint contract asset chain : String} {limit : Duration} {number : Nat}
  {credentials : Option Rpc.Credentials}

theorem isOk_openLink : (openLink limit number endpoint credentials).isOk = isUrl endpoint := by
  unfold openLink Rpc.Channel.open? isUrl
  cases Url.parse? endpoint <;> rfl

theorem isOk_openChannel : (openChannel limit number endpoint).isOk = isUrl endpoint := by
  unfold openChannel Evm.openChannel isUrl
  cases Url.parse? endpoint <;> rfl

theorem isOk_makeRipple : (makeRipple asset chain limit number endpoint).isOk = isUrl endpoint := by
  unfold makeRipple Rpc.Channel.open? isUrl
  cases Url.parse? endpoint <;> rfl

theorem isOk_makeToken {channel : Rpc.Channel} :
    (makeToken asset channel contract).isOk = isContract contract := by
  unfold makeToken isContract
  cases Evm.Address.parse contract <;> rfl

theorem exists_linkFor (t : Timeouts) (s : Sharing) (node : NodeConfig)
    (h : isUrl endpoint = true) : ∃ link s', linkFor t s endpoint node = .ok (link, s') := by
  cases hfound : s.links.lookup (endpoint, node.user, node.password) with
  | some link =>
    simp only [linkFor, hfound]
    exact ⟨_, _, rfl⟩
  | none =>
    obtain ⟨link, hlink⟩ : ∃ link, openLink (rpcLimit t) s.next endpoint
        (credentialsOf node.user node.password) = .ok link :=
      Result.exists_of_isOk (isOk_openLink.trans h)
    simp only [linkFor, hfound, hlink]
    exact ⟨_, _, rfl⟩

/-- A link is an earlier one or a new one, and neither is there without a URL. -/
theorem of_linkFor {link : Bitcoin.Link} (hs : s.Sound)
    (h : linkFor t s endpoint node = .ok (link, s')) : isUrl endpoint = true ∧ s'.Sound := by
  cases hfound : s.links.lookup (endpoint, node.user, node.password) with
  | some old =>
    simp only [linkFor, hfound] at h
    cases h
    exact ⟨hs.links _ _ _ _ hfound, hs⟩
  | none =>
    simp only [linkFor, hfound] at h
    obtain ⟨new, hopen, hnew⟩ := Result.bind_eq_ok_iff.1 h
    have hurl : isUrl endpoint = true := by
      rw [← isOk_openLink, hopen]
      rfl
    cases hnew
    refine ⟨hurl, fun query user password found hquery => ?_, hs.hosts⟩
    rcases lookup_or_eq_of_append hquery with hold | heq
    · exact hs.links _ _ _ _ hold
    · cases heq
      exact hurl

theorem exists_openHost (t : Timeouts) (s : Sharing) (h : isUrl endpoint = true) :
    ∃ channel s', openHost t s endpoint = .ok (channel, s') := by
  obtain ⟨channel, hchannel⟩ : ∃ channel, openChannel (rpcLimit t) s.next endpoint = .ok channel :=
    Result.exists_of_isOk (isOk_openChannel.trans h)
  simp only [openHost, hchannel]
  exact ⟨_, _, rfl⟩

theorem of_openHost {channel : Rpc.Channel} (hs : s.Sound)
    (h : openHost t s endpoint = .ok (channel, s')) : isUrl endpoint = true ∧ s'.Sound := by
  obtain ⟨new, hopen, hnew⟩ := Result.bind_eq_ok_iff.1 h
  have hurl : isUrl endpoint = true := by
    rw [← isOk_openChannel, hopen]
    rfl
  cases hnew
  refine ⟨hurl, hs.links, fun query found hquery => ?_⟩
  -- the first channel of an endpoint stays the shared one
  by_cases hheld : (s.hosts.lookup endpoint).isSome = true
  · rw [if_pos hheld] at hquery
    exact hs.hosts _ _ hquery
  · rw [if_neg hheld] at hquery
    rcases lookup_or_eq_of_append hquery with hold | rfl
    · exact hs.hosts _ _ hold
    · exact hurl

theorem exists_hostFor (t : Timeouts) (s : Sharing) (h : isUrl endpoint = true) :
    ∃ channel s', hostFor t s endpoint = .ok (channel, s') := by
  cases hfound : s.hosts.lookup endpoint with
  | some channel =>
    simp only [hostFor, hfound]
    exact ⟨_, _, rfl⟩
  | none =>
    simp only [hostFor, hfound]
    exact exists_openHost t s h

theorem of_hostFor {channel : Rpc.Channel} (hs : s.Sound)
    (h : hostFor t s endpoint = .ok (channel, s')) : isUrl endpoint = true ∧ s'.Sound := by
  cases hfound : s.hosts.lookup endpoint with
  | some old =>
    simp only [hostFor, hfound] at h
    cases h
    exact ⟨hs.hosts _ _ hfound, hs⟩
  | none =>
    simp only [hostFor, hfound] at h
    exact of_openHost hs h

/-- A node that can be asked has a constructor that succeeds. -/
theorem exists_constructorOf (t : Timeouts) (s : Sharing) (h : node.Usable env) :
    ∃ a s', constructorOf env t s node = .ok (.ok a, s') := by
  obtain ⟨hurl, hcontract⟩ := h
  cases hkind : node.kind with
  | bitcoin =>
    obtain ⟨link, s', hlink⟩ := exists_linkFor t s node hurl
    simp only [constructorOf, hkind, hlink]
    exact ⟨_, _, rfl⟩
  | ripple =>
    obtain ⟨client, hclient⟩ : ∃ client, makeRipple node.asset (node.chain.getD defaultChain)
        (rpcLimit t) s.next (node.endpoint env) = .ok client :=
      Result.exists_of_isOk (isOk_makeRipple.trans hurl)
    simp only [constructorOf, hkind, hclient]
    exact ⟨_, _, rfl⟩
  | evm =>
    obtain ⟨channel, s', hchannel⟩ := exists_openHost t s hurl
    simp only [constructorOf, hkind, hchannel]
    exact ⟨_, _, rfl⟩
  | erc20 =>
    obtain ⟨channel, s', hchannel⟩ := exists_hostFor t s hurl
    obtain ⟨token, htoken⟩ : ∃ token,
        makeToken node.asset channel (node.contract.getD "") = .ok token :=
      Result.exists_of_isOk (isOk_makeToken.trans (hcontract hkind))
    simp only [constructorOf, hkind, hchannel, bind, Except.bind, htoken]
    exact ⟨_, _, rfl⟩

theorem sound_of_constructorOf {made : NodeResult Adapter} (hs : s.Sound)
    (h : constructorOf env t s node = .ok (made, s')) : s'.Sound := by
  cases hkind : node.kind with
  | bitcoin =>
    simp only [constructorOf, hkind] at h
    obtain ⟨⟨link, later⟩, hlink, hmade⟩ := Result.bind_eq_ok_iff.1 h
    cases hmade
    exact (of_linkFor hs hlink).2
  | ripple =>
    simp only [constructorOf, hkind] at h
    obtain ⟨-, rfl⟩ := Prod.mk.inj (Except.ok.inj h)
    exact ⟨hs.links, hs.hosts⟩
  | evm =>
    simp only [constructorOf, hkind] at h
    obtain ⟨⟨channel, later⟩, hchannel, hmade⟩ := Result.bind_eq_ok_iff.1 h
    cases hmade
    exact (of_openHost hs hchannel).2
  | erc20 =>
    simp only [constructorOf, hkind] at h
    obtain ⟨⟨channel, later⟩, hchannel, hmade⟩ := Result.bind_eq_ok_iff.1 h
    cases hmade
    exact (of_hostFor hs hchannel).2

/-- A constructor that succeeds makes the adapter that the node asks for, and the node can be
    asked. -/
theorem registers_of_constructorOf {a : Adapter} (hs : s.Sound)
    (h : constructorOf env t s node = .ok (.ok a, s')) : node.Registers env t (node.asset, a) := by
  cases hkind : node.kind with
  | bitcoin =>
    simp only [constructorOf, hkind] at h
    obtain ⟨⟨link, later⟩, hlink, hmade⟩ := Result.bind_eq_ok_iff.1 h
    cases hmade
    refine ⟨rfl, .of_ne_erc20 (of_linkFor hs hlink).1 (by simp [hkind]), rfl, hkind.symm, ?_⟩
    intro c hc
    cases hc
    rfl
  | ripple =>
    simp only [constructorOf, hkind] at h
    obtain ⟨hmade, -⟩ := Prod.mk.inj (Except.ok.inj h)
    obtain ⟨client, hclient, rfl⟩ := Result.map_eq_ok_iff.1 hmade
    have hurl : isUrl (node.endpoint env) = true := by
      rw [← isOk_makeRipple, hclient]
      rfl
    obtain ⟨channel, -, hchannel⟩ := Result.bind_eq_ok_iff.1 hclient
    cases hchannel
    exact ⟨rfl, .of_ne_erc20 hurl (by simp [hkind]),
      .of_ne_bitcoin rfl hkind.symm nofun⟩
  | evm =>
    simp only [constructorOf, hkind] at h
    obtain ⟨⟨channel, later⟩, hchannel, hmade⟩ := Result.bind_eq_ok_iff.1 h
    cases hmade
    exact ⟨rfl, .of_ne_erc20 (of_openHost hs hchannel).1 (by simp [hkind]),
      .of_ne_bitcoin rfl hkind.symm nofun⟩
  | erc20 =>
    simp only [constructorOf, hkind] at h
    obtain ⟨⟨channel, later⟩, hchannel, hmade⟩ := Result.bind_eq_ok_iff.1 h
    obtain ⟨hmade, -⟩ := Prod.mk.inj (Except.ok.inj hmade)
    obtain ⟨token, htoken, rfl⟩ := Result.map_eq_ok_iff.1 hmade
    have hcontract : isContract (node.contract.getD "") = true := by
      rw [← isOk_makeToken, htoken]
      rfl
    obtain ⟨address, -, haddress⟩ := Result.bind_eq_ok_iff.1 htoken
    cases haddress
    exact ⟨rfl, ⟨(of_hostFor hs hchannel).1, fun _ => hcontract⟩,
      .of_ne_bitcoin rfl hkind.symm nofun⟩

/-- Every constructor is made with what the nodes before have opened, so by induction on the nodes
    the constructors that all succeed register the adapters that the nodes ask for. -/
theorem registers_of_constructors {nodes : List NodeConfig} {made : List (String × Adapter)}
    (hs : s.Sound)
    (h : constructors env t s nodes = .ok (made.map fun e => (e.1, .ok e.2))) :
    List.Forall₂ (NodeConfig.Registers env t) nodes made := by
  induction nodes generalizing s made with
  | nil =>
    cases made with
    | nil => exact .nil
    | cons e made => cases h
  | cons node rest ih =>
    rw [constructors] at h
    obtain ⟨⟨outcome, later⟩, hnode, h⟩ := Result.bind_eq_ok_iff.1 h
    obtain ⟨more, hrest, h⟩ := Result.bind_eq_ok_iff.1 h
    cases made with
    | nil => cases h
    | cons e made =>
      obtain ⟨id, a⟩ := e
      obtain ⟨hhead, rfl⟩ := List.cons.inj (Except.ok.inj h)
      obtain ⟨rfl, rfl⟩ := Prod.mk.inj hhead
      exact .cons (registers_of_constructorOf hs hnode)
        (ih (sound_of_constructorOf hs hnode) hrest)

theorem exists_constructors {nodes : List NodeConfig} (s : Sharing)
    (h : ∀ node ∈ nodes, node.Usable env) :
    ∃ made : List (String × Adapter),
      constructors env t s nodes = .ok (made.map fun e => (e.1, .ok e.2)) := by
  induction nodes generalizing s with
  | nil => exact ⟨[], rfl⟩
  | cons node rest ih =>
    obtain ⟨hnode, hrest⟩ := List.forall_mem_cons.1 h
    obtain ⟨a, s', hmade⟩ := exists_constructorOf t s hnode
    obtain ⟨made, hrest⟩ := ih s' hrest
    refine ⟨(node.asset, a) :: made, ?_⟩
    rw [constructors, hmade]
    simp only [bind, Except.bind, hrest]
    rfl

end Bootstrap

namespace Config

open Registry (ofHistory)

variable {env : Environment} {c : Config} {r : Registry Adapter}

section Related

variable {α β : Type} {R : α → β → Prop} {xs : List α} {ys : List β}

theorem exists_mem_of_mem_left (h : List.Forall₂ R xs ys) {x : α} (hx : x ∈ xs) :
    ∃ y ∈ ys, R x y := by
  induction h with
  | nil => cases hx
  | cons hhead _ ih =>
    rcases List.mem_cons.1 hx with rfl | hx
    · exact ⟨_, List.mem_cons_self, hhead⟩
    · obtain ⟨y, hy, hxy⟩ := ih hx
      exact ⟨y, List.mem_cons_of_mem _ hy, hxy⟩

theorem exists_mem_of_mem_right (h : List.Forall₂ R xs ys) {y : β} (hy : y ∈ ys) :
    ∃ x ∈ xs, R x y :=
  exists_mem_of_mem_left h.flip hy

theorem map_eq_map_of_forall₂ {γ : Type} {f : α → γ} {g : β → γ}
    (h : List.Forall₂ (fun x y => g y = f x) xs ys) : ys.map g = xs.map f := by
  induction h with
  | nil => rfl
  | cons hhead _ ih => rw [List.map_cons, List.map_cons, hhead, ih]

end Related

/-- A registry that is built holds what its nodes register, in their order. -/
theorem registers_of_registry (h : c.registry env = .ok r) :
    ∃ made, List.Forall₂ (NodeConfig.Registers env c.timeouts) c.nodes made ∧
      r = ofHistory made := by
  rw [registry] at h
  obtain ⟨entries, hentries, h⟩ := Result.bind_eq_ok_iff.1 h
  obtain ⟨made, rfl, rfl⟩ := construct_result_eq_ok_iff.1 h
  exact ⟨made, Bootstrap.registers_of_constructors Sharing.sound_empty hentries, rfl⟩

theorem exists_registry_iff :
    (∃ r, c.registry env = .ok r) ↔ ∀ node ∈ c.nodes, node.Usable env := by
  constructor
  · rintro ⟨r, hr⟩ node hnode
    obtain ⟨made, hmade, -⟩ := registers_of_registry hr
    obtain ⟨e, -, he⟩ := exists_mem_of_mem_left hmade hnode
    exact he.usable
  · intro h
    obtain ⟨made, hmade⟩ := Bootstrap.exists_constructors {} h
    refine ⟨ofHistory made, ?_⟩
    rw [registry, hmade]
    exact construct_result_eq_ok_iff.2 ⟨made, rfl, rfl⟩

/-- Every client of a registry that is built serves a node under the node's key. -/
theorem serves_of_mem_entries (h : c.registry env = .ok r) {key : String} {a : Adapter}
    (hmem : (key, a) ∈ r.entries) :
    ∃ node ∈ c.nodes, Text.lowercase node.asset = key ∧ a.Serves c.timeouts node := by
  obtain ⟨made, hmade, rfl⟩ := registers_of_registry h
  obtain ⟨e, he, rfl, rfl⟩ := Registry.mem_of_latest (Registry.mem_entries_ofHistory.1 hmem)
  obtain ⟨node, hnode, hid, -, hserves⟩ := exists_mem_of_mem_right hmade he
  exact ⟨node, hnode, by rw [hid], hserves⟩

/-- What a valid configuration registers has different keys. -/
theorem nodup_of_registers {t : Timeouts} {made : List (String × Adapter)}
    (hvalid : c.isValid env = true)
    (h : List.Forall₂ (NodeConfig.Registers env t) c.nodes made) :
    (made.map fun e => Text.lowercase e.1).Nodup := by
  have hkeys : made.map (fun e => Text.lowercase e.1) =
      c.nodes.map fun node => Text.lowercase node.asset :=
    map_eq_map_of_forall₂ (h.imp fun _ _ hnode => congrArg Text.lowercase hnode.id)
  rw [hkeys]
  exact nodup_lowercase_of_isValid hvalid

/-- A configuration is built if and only if every endpoint is a URL and every token's contract is
    an address. So every configuration that passes validation is built, and then no registration
    takes the place of an earlier one: there are as many clients as nodes, and the id of every node
    finds an adapter of its kind and of its name. -/
theorem registry_agrees_with_validation (env : Environment) (c : Config) :
    ((∃ r, c.registry env = .ok r) ↔
        ∀ node ∈ c.nodes, isUrl (node.endpoint env) = true ∧
          (node.kind = .erc20 → isContract (node.contract.getD "") = true)) ∧
      (c.isValid env = true → ∃ made : List (String × Adapter),
        made.map (·.1) = c.nodes.map (·.asset) ∧
        c.registry env = .ok (ofHistory made) ∧
        (∀ before e after, made = before ++ e :: after →
          (ofHistory before).find? e.1 = none) ∧
        (ofHistory made).size = c.nodes.length ∧
        ∀ node ∈ c.nodes, ∃ a, (ofHistory made).get node.asset = .ok a ∧
          a.kind = node.kind ∧ a.asset = node.asset) := by
  refine ⟨exists_registry_iff, fun hvalid => ?_⟩
  obtain ⟨r, hr⟩ := exists_registry_iff.2 fun node hnode => usable_of_isValid hvalid hnode
  obtain ⟨made, hmade, rfl⟩ := registers_of_registry hr
  have hids : made.map (·.1) = c.nodes.map (·.asset) :=
    map_eq_map_of_forall₂ (hmade.imp fun _ _ h => h.id)
  have hnodup := nodup_of_registers hvalid hmade
  refine ⟨made, hids, hr, ?_, ?_, ?_⟩
  · rintro before e after rfl
    rw [List.map_append, List.map_cons] at hnodup
    have hfresh := List.nodup_middle.1 hnodup
    rw [Registry.find?, Registry.find?_ofHistory, Registry.latest_eq_none_iff]
    intro other hother heq
    apply (List.nodup_cons.1 hfresh).1
    rw [← heq]
    exact List.mem_append_left _ (List.mem_map_of_mem hother)
  · have hlength := congrArg List.length hids
    rw [List.length_map, List.length_map] at hlength
    rw [Registry.size_ofHistory, List.toFinset_card_of_nodup hnodup, List.length_map, hlength]
  · intro node hnode
    obtain ⟨⟨id, a⟩, he, hid, -, hserves⟩ := exists_mem_of_mem_left hmade hnode
    refine ⟨a, ?_, hserves.kind, hserves.asset⟩
    have hlatest := Registry.latest_of_nodup hnodup he
    rw [← hid, Registry.get_ofHistory, hlatest]

/-- One node of each kind; the token lives on the chain of the node before it. -/
def ofEachKind : Config where
  nodes := [
    { asset := "BTC", kind := .bitcoin, user := some "u" },
    { asset := "XRP", kind := .ripple, url := some "xrp:5005" },
    { asset := "ETH", kind := .evm, url := some "http://eth" },
    { asset := "UNI", kind := .erc20, url := some "http://eth",
      contract := some "0x1f9840a85d5af5bf1d1762f925bdaddc4201f984" }]

theorem isValid_ofEachKind : ofEachKind.isValid (fun _ => none) = true := by decide +kernel

theorem registry_agrees_with_validation_ofEachKind :
    ∃ made : List (String × Adapter), made.map (·.1) = ["BTC", "XRP", "ETH", "UNI"] ∧
      ofEachKind.registry (fun _ => none) = .ok (ofHistory made) ∧ (ofHistory made).size = 4 := by
  obtain ⟨made, hids, hr, -, hsize, -⟩ :=
    (registry_agrees_with_validation (fun _ => none) ofEachKind).2 isValid_ofEachKind
  exact ⟨made, hids, hr, hsize⟩

end Config

end AssetOracle
