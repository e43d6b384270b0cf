import AssetOracle.Proofs.Config.Endpoint
import AssetOracle.Proofs.Registry.Sharing

/-!
# What nodes share by their endpoints

Two nodes share exactly if what they give is one endpoint, in whatever way it is written and
wherever it comes from, and if output-based nodes agree in their credentials as well
(`endpoint_canonical`).
-/

namespace AssetOracle

open Registry (ofHistory)
open Text (Surrounds)

variable {env : Environment} {t : Timeouts} {s : Sharing} {node other : NodeConfig}

theorem NodeConfig.walletKey_eq_iff : node.walletKey env = other.walletKey env ↔
    node.SharesEndpoint env other ∧ node.user = other.user ∧ node.password = other.password := by
  rw [walletKey, walletKey, Prod.mk.injEq, Prod.mk.injEq, endpoint_eq_iff]

namespace Sharing.Tracks

variable {built : List Built} {p q : Built}

theorem channels_eq_iff_of_wallets (h : s.Tracks env t built) (hp : p ∈ built) (hq : q ∈ built)
    (hpkind : p.1.kind = .bitcoin) (hqkind : q.1.kind = .bitcoin) :
    p.2.channels = q.2.channels ↔ p.1.walletKey env = q.1.walletKey env := by
  constructor
  · intro heq
    by_contra hkey
    have hapart := h.apart_of_wallet hp hq hqkind fun hshares => hkey hshares.2.2
    exact hapart.channels_ne heq
  · intro hkey
    exact h.channels_eq_of_shares hp hq ⟨hpkind, hqkind, hkey⟩

/-- Nodes on chains at different endpoints have no channel in common. -/
theorem apart_of_chains (h : s.Tracks env t built) (hp : p ∈ built) (hq : q ∈ built)
    (hpchain : p.1.onChain env (p.1.endpoint env) = true)
    (hqchain : q.1.onChain env (q.1.endpoint env) = true)
    (hne : p.1.endpoint env ≠ q.1.endpoint env) : p.2.Apart q.2 := by
  have hpwallet := NodeConfig.ne_bitcoin_of_onChain hpchain
  have hqwallet := NodeConfig.ne_bitcoin_of_onChain hqchain
  rcases h.related_or hp hq with rfl | hrelated | hrelated
  · exact absurd rfl hne
  · exact hrelated.apart (fun hshares => hpwallet hshares.1) fun htoken =>
      hne (NodeConfig.onChain_iff.1 htoken.2).2
  · exact (hrelated.apart (fun hshares => hqwallet hshares.1) fun htoken =>
      hne (NodeConfig.onChain_iff.1 htoken.2).2.symm).symm

/-- A token has the channel of the first node on its chain. -/
theorem exists_first (h : s.Tracks env t built) (hp : p ∈ built) (hkind : p.1.kind = .erc20) :
    ∃ before first later, built = before ++ first :: later ∧
      first.1.onChain env (p.1.endpoint env) = true ∧
      (∀ q ∈ before, q.1.onChain env (p.1.endpoint env) ≠ true) ∧
      p.2.channels = first.2.channels := by
  obtain ⟨channel, hchannel⟩ :=
    h.exists_chain_of_onChain hp (NodeConfig.onChain_self (.inr hkind))
  have hhost := h.tokens p hp hkind
  rw [hchannel] at hhost
  obtain ⟨first, hfirst, hsame⟩ := Option.bind_eq_some_iff.1 hhost.symm
  obtain ⟨hchain, before, later, hbuilt, hbefore⟩ := List.find?_eq_some_iff_append.1 hfirst
  refine ⟨before, first, later, hbuilt, hchain, fun q hq => by simpa using hbefore q hq, ?_⟩
  rw [Adapter.channels_of_chain hchannel, Adapter.channels_of_chain hsame]

theorem channels_eq_iff_of_tokens (h : s.Tracks env t built) (hp : p ∈ built) (hq : q ∈ built)
    (hpkind : p.1.kind = .erc20) (hqkind : q.1.kind = .erc20) :
    p.2.channels = q.2.channels ↔ p.1.endpoint env = q.1.endpoint env := by
  have hpchain : p.1.onChain env (p.1.endpoint env) = true := NodeConfig.onChain_self (.inr hpkind)
  have hqchain : q.1.onChain env (q.1.endpoint env) = true := NodeConfig.onChain_self (.inr hqkind)
  constructor
  · intro heq
    by_contra hne
    exact (h.apart_of_chains hp hq hpchain hqchain hne).channels_ne heq
  · intro heq
    obtain ⟨channel, hchannel⟩ := h.exists_chain_of_onChain hp hpchain
    have hsame : q.2.chain? = some channel := by
      rw [h.tokens q hq hqkind, ← heq, ← h.tokens p hp hpkind, hchannel]
    rw [Adapter.channels_of_chain hchannel, Adapter.channels_of_chain hsame]

end Sharing.Tracks

/-- Normalisation gives endpoints and leaves them as they are; neither white space around a text nor
    a plain scheme that is left out counts, and two texts have one normal form exactly if such steps
    lead from one to the other. A node's endpoint is the normal form of the value in the
    environment, if its variable is set to more than white space, and else of the configured text.
    Hence the keys that nodes share by are the same exactly if what the nodes give is one endpoint
    and, for output-based nodes, user and password are the same; and in a registry that is built,
    output-based nodes with the same key have the same channels, and so have tokens, which are those
    of the first account-based node at their endpoint. -/
theorem endpoint_canonical (env : Environment) :
    (∀ raw, IsEndpoint (normalizeEndpoint raw)) ∧
    (∀ raw, normalizeEndpoint (some (normalizeEndpoint raw)) = normalizeEndpoint raw) ∧
    (∀ core s t, Surrounds core s → Surrounds core t →
      normalizeEndpoint (some s) = normalizeEndpoint (some t)) ∧
    (∀ x, IsBare x → normalizeEndpoint (some x) = normalizeEndpoint (some ("http://" ++ x))) ∧
    (∀ raw other, normalizeEndpoint raw = normalizeEndpoint other ↔ SameEndpoint raw other) ∧
    (∀ node : NodeConfig, (∃ raw, node.Gives env raw) ∧
      ∀ raw, node.Gives env raw → node.endpoint env = normalizeEndpoint raw) ∧
    (∀ node other : NodeConfig,
      (node.endpoint env = other.endpoint env ↔ node.SharesEndpoint env other) ∧
      (node.walletKey env = other.walletKey env ↔
        node.SharesEndpoint env other ∧ node.user = other.user ∧ node.password = other.password)) ∧
    ∀ (c : Config) (r : Registry Adapter), c.registry env = .ok r →
      ∃ built : List Built, built.map (·.1) = c.nodes ∧
        r = ofHistory (built.map fun p => (p.1.asset, p.2)) ∧
        (∀ p ∈ built, p.2.kind = p.1.kind) ∧
        (∀ p ∈ built, ∀ q ∈ built,
          (p.1.kind = .bitcoin → q.1.kind = .bitcoin →
            (p.2.channels = q.2.channels ↔ p.1.SharesEndpoint env q.1 ∧ p.1.user = q.1.user ∧
              p.1.password = q.1.password)) ∧
          (p.1.kind = .erc20 → q.1.kind = .erc20 →
            (p.2.channels = q.2.channels ↔ p.1.SharesEndpoint env q.1))) ∧
        ∀ p ∈ built, p.1.kind = .erc20 → ∃ before first later, built = before ++ first :: later ∧
          (first.1.kind = .evm ∨ first.1.kind = .erc20) ∧ first.1.SharesEndpoint env p.1 ∧
          (∀ q ∈ before, q.1.kind = .evm ∨ q.1.kind = .erc20 → ¬ q.1.SharesEndpoint env p.1) ∧
          p.2.channels = first.2.channels := by
  refine ⟨isEndpoint_normalizeEndpoint, ?_, ?_, fun x => normalizeEndpoint_of_isBare,
    fun raw other => normalizeEndpoint_eq_iff, ?_, ?_, ?_⟩
  · intro raw
    exact normalizeEndpoint_of_isEndpoint (isEndpoint_normalizeEndpoint raw)
  · intro core s t hs ht
    rw [normalizeEndpoint_of_surrounds hs, normalizeEndpoint_of_surrounds ht]
  · intro node
    exact ⟨node.exists_gives env, fun raw => NodeConfig.endpoint_of_gives⟩
  · intro node other
    exact ⟨NodeConfig.endpoint_eq_iff, NodeConfig.walletKey_eq_iff⟩
  · intro c r hr
    obtain ⟨built, last, hnodes, hbuilt, htracks⟩ := Config.tracks_of_registry hr
    refine ⟨built, hnodes, hbuilt, fun p hp => (htracks.serves p hp).kind, ?_, ?_⟩
    · intro p hp q hq
      constructor
      · intro hpkind hqkind
        rw [htracks.channels_eq_iff_of_wallets hp hq hpkind hqkind, NodeConfig.walletKey_eq_iff]
      · intro hpkind hqkind
        rw [htracks.channels_eq_iff_of_tokens hp hq hpkind hqkind, NodeConfig.endpoint_eq_iff]
    · intro p hp hkind
      obtain ⟨before, first, later, hsplit, hfirst, hbefore, hchannels⟩ :=
        htracks.exists_first hp hkind
      obtain ⟨hfirstKind, hendpoint⟩ := NodeConfig.onChain_iff.1 hfirst
      refine ⟨before, first, later, hsplit, hfirstKind, NodeConfig.endpoint_eq_iff.1 hendpoint, ?_,
        hchannels⟩
      intro q hq hqkind hshares
      exact hbefore q hq (NodeConfig.onChain_iff.2 ⟨hqkind, NodeConfig.endpoint_eq_iff.2 hshares⟩)

/-! ## One endpoint in several spellings -/

/-- A wallet of one user at an endpoint. -/
def walletAt (asset url : String) : NodeConfig where
  asset
  kind := .bitcoin
  url := some url
  user := some "u"

/-- A token at the endpoint that the environment gives or else at a configured one. -/
def tokenAt (asset url name : String) : NodeConfig where
  asset
  kind := .erc20
  url := some url
  urlVariable := some name
  contract := some "0x1f9840a85d5af5bf1d1762f925bdaddc4201f984"

/-- Wallets and tokens whose endpoints are written in different ways. -/
def manySpellings : Config where
  nodes := [walletAt "BTC" "node:8332", walletAt "BCH" " http://node:8332\n",
    tokenAt "UNI" "elsewhere" "CHAIN", tokenAt "ZRX" "http://eth:8545" "BLANK"]

/-- An environment that gives one token its endpoint, and the other one white space alone. -/
def spellingEnvironment : Environment
  | "CHAIN" => some "eth:8545 "
  | "BLANK" => some " "
  | _ => none

theorem isBare_node : IsBare "node:8332" := by
  refine ⟨by decide, fun c hc => ?_, hasWebScheme_iff.not.1 (by decide)⟩
  obtain rfl : 'n' = c := by simpa using hc
  decide

theorem surrounds_node : Surrounds "http://node:8332" " http://node:8332\n" :=
  ⟨[' '], ['\n'], by decide, by decide, by decide⟩

theorem gives_walletAt (asset url : String) :
    (walletAt asset url).Gives spellingEnvironment (some url) :=
  .configured fun value h => by
    obtain ⟨name, hname, -⟩ := h
    cases hname

theorem sharesEndpoint_wallets :
    (walletAt "BTC" "node:8332").SharesEndpoint spellingEnvironment
      (walletAt "BCH" " http://node:8332\n") :=
  ⟨_, _, gives_walletAt _ _, gives_walletAt _ _,
    .trans _ _ _ (.rel _ _ (.bare isBare_node)) (.symm _ _ (.rel _ _ (.surrounded surrounds_node)))⟩

theorem sharesEndpoint_tokens :
    (tokenAt "UNI" "elsewhere" "CHAIN").SharesEndpoint spellingEnvironment
      (tokenAt "ZRX" "http://eth:8545" "BLANK") := by
  have hbare : IsBare "eth:8545 " := by
    refine ⟨by decide, fun c hc => ?_, hasWebScheme_iff.not.1 (by decide)⟩
    obtain rfl : 'e' = c := by simpa using hc
    decide
  have hsurrounds : Surrounds "http://eth:8545" "http://eth:8545 " :=
    ⟨[], [' '], by decide, by decide, by decide⟩
  refine ⟨some "eth:8545 ", some "http://eth:8545", .environment ⟨"CHAIN", rfl, rfl, ?_⟩,
    .configured ?_, .trans _ _ _ (.rel _ _ (.bare hbare)) (.rel _ _ (.surrounded hsurrounds))⟩
  · decide
  · rintro value ⟨name, hname, hvalue, hnot⟩
    obtain rfl : "BLANK" = name := Option.some.inj hname
    obtain rfl : " " = value := Option.some.inj hvalue
    exact hnot (by decide)

/-- The wallets of `manySpellings` have the same channels, and so have its tokens. -/
theorem endpoint_canonical_manySpellings :
    normalizeEndpoint (some "node:8332") = normalizeEndpoint (some "http://node:8332") ∧
    normalizeEndpoint (some " http://node:8332\n") = normalizeEndpoint (some "http://node:8332") ∧
    (walletAt "BTC" "node:8332").endpoint spellingEnvironment =
      normalizeEndpoint (some "node:8332") ∧
    ∃ r, manySpellings.registry spellingEnvironment = .ok r ∧ ∃ built : List Built,
      built.map (·.1) = manySpellings.nodes ∧
      ∃ btc ∈ built, ∃ bch ∈ built, ∃ uni ∈ built, ∃ zrx ∈ built,
        btc.1.asset = "BTC" ∧ bch.1.asset = "BCH" ∧ uni.1.asset = "UNI" ∧ zrx.1.asset = "ZRX" ∧
        btc.2.channels = bch.2.channels ∧ uni.2.channels = zrx.2.channels ∧
        ∃ first ∈ built, first.1.SharesEndpoint spellingEnvironment uni.1 ∧
          uni.2.channels = first.2.channels := by
  obtain ⟨-, -, hsurrounds, hbare, -, hgives, -, hregistry⟩ :=
    endpoint_canonical spellingEnvironment
  have hvalid : manySpellings.isValid spellingEnvironment = true := by decide +kernel
  obtain ⟨r, hr⟩ :=
    Config.exists_registry_iff.2 fun _ hnode => Config.usable_of_isValid hvalid hnode
  obtain ⟨built, hnodes, -, -, hshares, hfirst⟩ := hregistry manySpellings r hr
  have hmem (node : NodeConfig) (hnode : node ∈ manySpellings.nodes) : ∃ p ∈ built, p.1 = node := by
    rw [← hnodes] at hnode
    exact List.mem_map.1 hnode
  obtain ⟨⟨_, btc⟩, hbtc, rfl⟩ := hmem (walletAt "BTC" "node:8332") (by decide)
  obtain ⟨⟨_, bch⟩, hbch, rfl⟩ := hmem (walletAt "BCH" " http://node:8332\n") (by decide)
  obtain ⟨⟨_, uni⟩, huni, rfl⟩ := hmem (tokenAt "UNI" "elsewhere" "CHAIN") (by decide)
  obtain ⟨⟨_, zrx⟩, hzrx, rfl⟩ := hmem (tokenAt "ZRX" "http://eth:8545" "BLANK") (by decide)
  obtain ⟨before, first, later, hsplit, -, hfirstShares, -, hchannels⟩ := hfirst _ huni rfl
  have hmemFirst : first ∈ built := by simp [hsplit]
  refine ⟨hbare _ isBare_node, hsurrounds _ _ _ surrounds_node ?_,
    (hgives _).2 _ (gives_walletAt _ _), r, hr, built, hnodes, _, hbtc, _, hbch, _, huni, _, hzrx,
    rfl, rfl, rfl, rfl, ?_, ?_, first, hmemFirst, hfirstShares, hchannels⟩
  · exact ⟨[], [], by decide, by decide, by decide⟩
  · exact ((hshares _ hbtc _ hbch).1 rfl rfl).2 ⟨sharesEndpoint_wallets, rfl, rfl⟩
  · exact ((hshares _ huni _ hzrx).2 rfl rfl).2 sharesEndpoint_tokens

end AssetOracle
