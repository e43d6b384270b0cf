import AssetOracle.Proofs.Node.Channels
import AssetOracle.Proofs.Node.Confirmation
import AssetOracle.Proofs.Registry.Bootstrap
import Mathlib.Data.List.Pairwise

/-!
# What nodes share

Nodes are gone through in their order, and what has been opened for one is shared with later ones.
After each node, the tables of what is shared agree with the adapters that have been made
(`Sharing.Tracks`): one node's step keeps it so (`Sharing.Tracks.append`), and then it is so for all
nodes (`Sharing.Tracks.of_constructors`).
-/

namespace AssetOracle

open Rpc (Channel Credentials Ask)

variable {env : Environment} {t : Timeouts} {s s' : Sharing} {node other : NodeConfig} {a b : Adapter}
  {endpoint : String} {limit : Duration} {number : Nat} {own : Option Credentials}

/-! ## What is opened -/

theorem Rpc.Channel.of_open? {limit : Option Duration} {channel : Channel}
    (h : Channel.open? number endpoint own limit = .ok channel) :
    ∃ url, Url.parse? endpoint = some url ∧ channel = ⟨number, .plain, url, own, limit⟩ := by
  unfold Channel.open? at h
  cases hurl : Url.parse? endpoint with
  | none =>
    rw [hurl] at h
    cases h
  | some url =>
    rw [hurl] at h
    cases h
    exact ⟨url, rfl, rfl⟩

namespace Bootstrap

theorem of_openLink {link : Bitcoin.Link} (h : openLink limit number endpoint own = .ok link) :
    ∃ url, Url.parse? endpoint = some url ∧
      link = ⟨⟨number, .plain, url, own, some limit⟩, ⟨number + 1, .plain, url, own, none⟩⟩ := by
  obtain ⟨ordinary, hordinary, h⟩ := Result.bind_eq_ok_iff.1 h
  obtain ⟨importing, himporting, h⟩ := Result.bind_eq_ok_iff.1 h
  obtain ⟨url, hurl, rfl⟩ := Channel.of_open? (Result.mapError_eq_ok_iff.1 hordinary)
  obtain ⟨other, hother, rfl⟩ := Channel.of_open? (Result.mapError_eq_ok_iff.1 himporting)
  obtain rfl : url = other := Option.some.inj (hurl.symm.trans hother)
  cases h
  exact ⟨url, hurl, rfl⟩

theorem of_openChannel {channel : Channel} (h : openChannel limit number endpoint = .ok channel) :
    ∃ url, Url.parse? endpoint = some url ∧
      channel = ⟨number, .evm, url, none, some limit⟩ := by
  unfold openChannel Evm.openChannel at h
  cases hurl : Url.parse? endpoint with
  | none =>
    rw [hurl] at h
    cases h
  | some url =>
    rw [hurl] at h
    cases h
    exact ⟨url, rfl, rfl⟩

/-- A new host is opened under the next number, and is shared from then on unless its endpoint has a
    host already. -/
theorem openHost_spec {channel : Channel} (h : openHost t s endpoint = .ok (channel, s')) :
    ∃ url, Url.parse? endpoint = some url ∧
      channel = ⟨s.next, .evm, url, none, some (rpcLimit t)⟩ ∧
      s'.links = s.links ∧ s'.next = s.next + 1 ∧ ∀ query, s'.hosts.lookup query =
        (s.hosts.lookup query).or (if query = endpoint then some channel else none) := by
  obtain ⟨opened, hopen, hnew⟩ := Result.bind_eq_ok_iff.1 h
  obtain ⟨url, hurl, hchannel⟩ := of_openChannel hopen
  cases hnew
  refine ⟨url, hurl, hchannel, rfl, rfl, fun query => ?_⟩
  by_cases hheld : (s.hosts.lookup endpoint).isSome = true
  · obtain ⟨old, hold⟩ := Option.isSome_iff_exists.1 hheld
    by_cases hquery : query = endpoint
    · simp [hquery, hold]
    · simp [hquery, hold]
  · simp only [if_neg hheld, lookup_append_singleton, beq_iff_eq]

theorem of_makeRipple {asset chain : String} {c : Ripple.Client}
    (h : makeRipple asset chain limit number endpoint = .ok c) :
    ∃ url, Url.parse? endpoint = some url ∧
      c = ⟨asset, chain, ⟨number, .plain, url, none, some limit⟩⟩ := by
  obtain ⟨channel, hchannel, h⟩ := Result.bind_eq_ok_iff.1 h
  obtain ⟨url, hurl, rfl⟩ := Channel.of_open? (Result.mapError_eq_ok_iff.1 hchannel)
  cases h
  exact ⟨url, hurl, rfl⟩

theorem channel_of_makeToken {asset contract : String} {channel : Channel} {token : Evm.Token}
    (h : makeToken asset channel contract = .ok token) : token.channel = channel := by
  obtain ⟨address, -, htoken⟩ := Result.bind_eq_ok_iff.1 h
  cases htoken
  rfl

end Bootstrap

/-! ## The nodes that share -/

namespace NodeConfig

/-- What output-based nodes share their channels by. -/
def walletKey (env : Environment) (node : NodeConfig) : String × Option String × Option String :=
  (node.endpoint env, node.user, node.password)

/-- Whether two nodes are output-based and share their channels. -/
def SharesWallet (env : Environment) (node other : NodeConfig) : Prop :=
  node.kind = .bitcoin ∧ other.kind = .bitcoin ∧ node.walletKey env = other.walletKey env

/-- Whether a node is on an account-based chain at an endpoint. -/
def onChain (env : Environment) (endpoint : String) (node : NodeConfig) : Bool :=
  (node.kind = .evm ∨ node.kind = .erc20) ∧ node.endpoint env = endpoint

/-- The credentials that a node sets for its requests; only those of output-based nodes count. -/
def ownCredentials (node : NodeConfig) : Option Credentials :=
  if node.kind = .bitcoin then Bootstrap.credentialsOf node.user node.password else none

theorem SharesWallet.symm (h : node.SharesWallet env other) : other.SharesWallet env node :=
  ⟨h.2.1, h.1, h.2.2.symm⟩

theorem SharesWallet.trans {third : NodeConfig} (h : node.SharesWallet env other)
    (hnext : other.SharesWallet env third) : node.SharesWallet env third :=
  ⟨h.1, hnext.2.1, h.2.2.trans hnext.2.2⟩

theorem onChain_iff : node.onChain env endpoint = true ↔
    (node.kind = .evm ∨ node.kind = .erc20) ∧ node.endpoint env = endpoint :=
  decide_eq_true_iff

theorem onChain_self (h : node.kind = .evm ∨ node.kind = .erc20) :
    node.onChain env (node.endpoint env) = true :=
  onChain_iff.2 ⟨h, rfl⟩

theorem ne_bitcoin_of_onChain (h : node.onChain env endpoint = true) : node.kind ≠ .bitcoin := by
  rcases (onChain_iff.1 h).1 with hkind | hkind <;> simp [hkind]

theorem ownCredentials_of_ne (h : node.kind ≠ .bitcoin) : node.ownCredentials = none :=
  if_neg h

end NodeConfig

/-- Whether an adapter's channels go where its node says, with the credentials that the node sets,
    and imports are waited for without a limit of the channel. -/
structure Adapter.Reaches (a : Adapter) (env : Environment) (node : NodeConfig) : Prop where
  endpoint : ∀ channel ∈ a.channels, Url.parse? (node.endpoint env) = some channel.endpoint
  credentials : ∀ channel ∈ a.channels, channel.credentials = node.ownCredentials
  importing : ∀ c, a = .bitcoin c → c.link.importing.limit = none

/-- An adapter that is not output-based has one channel, which carries no credentials that are set. -/
theorem Adapter.Reaches.of_channel {channel : Channel} (hchannels : a.channels = [channel])
    (hurl : Url.parse? (node.endpoint env) = some channel.endpoint)
    (hown : channel.credentials = none) (hkind : a.kind = node.kind) (hnode : node.kind ≠ .bitcoin) :
    a.Reaches env node := by
  refine ⟨?_, ?_, ?_⟩
  · intro other hother
    rw [hchannels, List.mem_singleton] at hother
    rw [hother, hurl]
  · intro other hother
    rw [hchannels, List.mem_singleton] at hother
    rw [hother, hown, NodeConfig.ownCredentials_of_ne hnode]
  · rintro c rfl
    exact absurd hkind.symm hnode

/-- Whether two adapters have no channel in common. -/
def Adapter.Apart (a b : Adapter) : Prop :=
  ∀ channel ∈ a.channels, ∀ other ∈ b.channels, channel.number ≠ other.number

theorem Adapter.Apart.symm (h : a.Apart b) : b.Apart a :=
  fun channel hchannel other hother heq => h other hother channel hchannel heq.symm

/-- Every adapter has a channel, so it has some in common with itself. -/
theorem Adapter.Apart.channels_ne (h : a.Apart b) : a.channels ≠ b.channels := by
  intro heq
  have hshared : ∃ channel, channel ∈ a.channels := by
    cases a <;> exact ⟨_, List.mem_cons_self⟩
  obtain ⟨channel, hchannel⟩ := hshared
  exact h channel hchannel channel (heq ▸ hchannel) rfl

theorem Adapter.channels_of_chain {channel : Channel} (h : a.chain? = some channel) :
    a.channels = [channel] := by
  cases a with
  | bitcoin c => cases h
  | ripple c => cases h
  | evm c =>
    cases h
    rfl
  | token t =>
    cases h
    rfl

theorem Adapter.exists_chain (h : a.kind = .evm ∨ a.kind = .erc20) :
    ∃ channel, a.chain? = some channel := by
  cases a with
  | bitcoin c => rcases h with h | h <;> cases h
  | ripple c => rcases h with h | h <;> cases h
  | evm c => exact ⟨c.channel, rfl⟩
  | token t => exact ⟨t.channel, rfl⟩

theorem Adapter.exists_wallet (h : a.kind = .bitcoin) : ∃ c, a = .bitcoin c := by
  cases a with
  | bitcoin c => exact ⟨c, rfl⟩
  | ripple c => cases h
  | evm c => cases h
  | token t => cases h

/-- A node with the adapter that was made for it. -/
abbrev Built := NodeConfig × Adapter

namespace Built

variable {p q : Built} {built done : List Built}

/-- How the channels of a node and of a later one are related: they are shared by output-based nodes
    of one key, and may be shared by a token and its chain. -/
structure Related (env : Environment) (p q : Built) : Prop where
  shared : p.1.SharesWallet env q.1 → p.2.channels = q.2.channels
  apart : ¬ p.1.SharesWallet env q.1 →
    ¬ (q.1.kind = .erc20 ∧ p.1.onChain env (q.1.endpoint env) = true) → p.2.Apart q.2

/-- The first node on an account-based chain. -/
def firstOn (env : Environment) (endpoint : String) (built : List Built) : Option Built :=
  built.find? (·.1.onChain env endpoint)

/-- The channel of the first node on an account-based chain. -/
def hostOf (env : Environment) (endpoint : String) (built : List Built) : Option Channel :=
  (firstOn env endpoint built).bind (·.2.chain?)

theorem of_firstOn (h : firstOn env endpoint built = some p) :
    p ∈ built ∧ p.1.onChain env endpoint = true := by
  have hchain := List.find?_some h
  exact ⟨List.mem_of_find?_eq_some h, hchain⟩

theorem firstOn_append (p : Built) :
    firstOn env endpoint (built ++ [p]) =
      (firstOn env endpoint built).or (if p.1.onChain env endpoint then some p else none) := by
  rw [firstOn, List.find?_append, List.find?_singleton]
  rfl

end Built

/-! ## One node -/

/-- What making the adapter of a node does: it takes channels that are shared, or it opens new ones
    under the next numbers and may leave them to later nodes. -/
inductive Bootstrap.Makes (env : Environment) (t : Timeouts) (s : Sharing) (node : NodeConfig) :
    Adapter → Sharing → Prop where
  | sharedLink {link : Bitcoin.Link} (hkind : node.kind = .bitcoin)
      (hfound : s.links.lookup (node.walletKey env) = some link) :
    Makes env t s node (.bitcoin ⟨node.asset, link, importOperationOf t⟩) s
  | newLink {link : Bitcoin.Link} (hkind : node.kind = .bitcoin)
      (hfound : s.links.lookup (node.walletKey env) = none)
      (hopen : openLink (rpcLimit t) s.next (node.endpoint env)
        (credentialsOf node.user node.password) = .ok link) :
    Makes env t s node (.bitcoin ⟨node.asset, link, importOperationOf t⟩)
      { s with links := s.links ++ [(node.walletKey env, link)], next := s.next + 2 }
  | ledger {c : Ripple.Client} (hkind : node.kind = .ripple)
      (hmake : makeRipple node.asset (node.chain.getD defaultChain) (rpcLimit t) s.next
        (node.endpoint env) = .ok c) :
    Makes env t s node (.ripple c) { s with next := s.next + 1 }
  | chain {channel : Channel} {later : Sharing} (hkind : node.kind = .evm)
      (hopen : openHost t s (node.endpoint env) = .ok (channel, later)) :
    Makes env t s node (.evm ⟨node.asset, channel⟩) later
  | sharedHost {channel : Channel} {token : Evm.Token} (hkind : node.kind = .erc20)
      (hfound : s.hosts.lookup (node.endpoint env) = some channel)
      (htoken : token.channel = channel) : Makes env t s node (.token token) s
  | newHost {channel : Channel} {token : Evm.Token} {later : Sharing} (hkind : node.kind = .erc20)
      (hfound : s.hosts.lookup (node.endpoint env) = none)
      (hopen : openHost t s (node.endpoint env) = .ok (channel, later))
      (htoken : token.channel = channel) : Makes env t s node (.token token) later

theorem Bootstrap.makes_of_constructorOf (h : constructorOf env t s node = .ok (.ok a, s')) :
    Makes env t s node a s' := by
  cases hkind : node.kind with
  | bitcoin =>
    simp only [constructorOf, hkind] at h
    obtain ⟨⟨link, later⟩, hlink, hmade⟩ := Result.bind_eq_ok_iff.1 h
    obtain ⟨hmade, rfl⟩ := Prod.mk.inj (Except.ok.inj hmade)
    cases hmade
    unfold linkFor at hlink
    cases hfound : s.links.lookup (node.walletKey env) with
    | some old =>
      simp only [show s.links.lookup (node.endpoint env, node.user, node.password) = some old
        from hfound] at hlink
      cases hlink
      exact .sharedLink hkind hfound
    | none =>
      simp only [show s.links.lookup (node.endpoint env, node.user, node.password) = none
        from hfound] at hlink
      obtain ⟨new, hopen, hnew⟩ := Result.bind_eq_ok_iff.1 hlink
      cases hnew
      exact .newLink hkind hfound hopen
  | ripple =>
    simp only [constructorOf, hkind] at h
    obtain ⟨hmade, rfl⟩ := Prod.mk.inj (Except.ok.inj h)
    obtain ⟨client, hclient, rfl⟩ := Result.map_eq_ok_iff.1 hmade
    exact .ledger hkind hclient
  | evm =>
    simp only [constructorOf, hkind] at h
    obtain ⟨⟨channel, later⟩, hchannel, hmade⟩ := Result.bind_eq_ok_iff.1 h
    cases hmade
    exact .chain hkind hchannel
  | erc20 =>
    simp only [constructorOf, hkind] at h
    obtain ⟨⟨channel, later⟩, hchannel, hmade⟩ := Result.bind_eq_ok_iff.1 h
    obtain ⟨houtcome, rfl⟩ := Prod.mk.inj (Except.ok.inj hmade)
    obtain ⟨token, htoken, rfl⟩ := Result.map_eq_ok_iff.1 houtcome
    have hsame := channel_of_makeToken htoken
    unfold hostFor at hchannel
    cases hfound : s.hosts.lookup (node.endpoint env) with
    | some old =>
      rw [hfound] at hchannel
      cases hchannel
      exact .sharedHost hkind hfound hsame
    | none =>
      rw [hfound] at hchannel
      exact .newHost hkind hfound hchannel hsame

/-! ## What the table of shared channels says -/

/-- Whether what is shared agrees with the adapters that have been made: the table of links has the
    link of every output-based adapter under its node's key, and nothing else, and the table of
    hosts has the first channel on each chain. All numbers in use are below the next one. -/
structure Sharing.Tracks (s : Sharing) (env : Environment) (t : Timeouts) (done : List Built) :
    Prop where
  sound : s.Sound
  serves : ∀ p ∈ done, p.2.Serves t p.1
  reaches : ∀ p ∈ done, p.2.Reaches env p.1
  below : ∀ p ∈ done, ∀ channel ∈ p.2.channels, channel.number < s.next
  links : ∀ key link, s.links.lookup key = some link ↔
    ∃ p ∈ done, ∃ c, p.2 = .bitcoin c ∧ p.1.walletKey env = key ∧ c.link = link
  hosts : ∀ endpoint, s.hosts.lookup endpoint = Built.hostOf env endpoint done
  related : done.Pairwise (Built.Related env)
  tokens : ∀ p ∈ done, p.1.kind = .erc20 → p.2.chain? = Built.hostOf env (p.1.endpoint env) done

theorem Sharing.tracks_empty : ({} : Sharing).Tracks env t [] where
  sound := sound_empty
  serves _ hp := by cases hp
  reaches _ hp := by cases hp
  below _ hp := by cases hp
  links key link := by simp
  hosts _ := rfl
  related := .nil
  tokens _ hp := by cases hp

namespace Sharing.Tracks

open Bootstrap (Makes)
open Built (Related hostOf firstOn)

variable {done : List Built} {p q : Built}

/-- An output-based adapter was made for an output-based node. -/
theorem kind_eq_of_wallet (h : s.Tracks env t done) (hp : p ∈ done) {c : Bitcoin.Client}
    (hc : p.2 = .bitcoin c) : p.1.kind = .bitcoin := by
  rw [← (h.serves p hp).kind, hc]
  rfl

/-- A node on a chain has an adapter with a channel to it. -/
theorem exists_chain_of_onChain (h : s.Tracks env t done) (hp : p ∈ done)
    (hchain : p.1.onChain env endpoint = true) : ∃ channel, p.2.chain? = some channel := by
  have hkind := (NodeConfig.onChain_iff.1 hchain).1
  rw [← (h.serves p hp).kind] at hkind
  exact Adapter.exists_chain hkind

theorem exists_of_hostOf {channel : Channel} (hhost : hostOf env endpoint done = some channel) :
    ∃ p ∈ done, p.1.onChain env endpoint = true ∧ p.2.chain? = some channel := by
  obtain ⟨p, hp, hchannel⟩ := Option.bind_eq_some_iff.1 hhost
  obtain ⟨hmem, hchain⟩ := Built.of_firstOn hp
  exact ⟨p, hmem, hchain, hchannel⟩

/-- The first channel on a chain stays the first one. -/
theorem hostOf_append (h : s.Tracks env t done) : hostOf env endpoint (done ++ [p]) =
    (hostOf env endpoint done).or (if p.1.onChain env endpoint then p.2.chain? else none) := by
  unfold hostOf
  rw [Built.firstOn_append]
  cases hfirst : firstOn env endpoint done with
  | none => by_cases hp : p.1.onChain env endpoint = true <;> simp [hp]
  | some first =>
    obtain ⟨hmem, hchain⟩ := Built.of_firstOn hfirst
    obtain ⟨channel, hchannel⟩ := h.exists_chain_of_onChain hmem hchain
    simp [hchannel]

/-! ### What the next node is given -/

theorem reaches_of_makes (h : s.Tracks env t done) (hmakes : Makes env t s node a s') :
    a.Reaches env node := by
  cases hmakes with
  | sharedLink hkind hfound =>
    obtain ⟨p, hp, c, hc, hkey, rfl⟩ := (h.links _ _).1 hfound
    obtain ⟨hendpoint, huser⟩ := Prod.mk.inj hkey
    obtain ⟨huser, hpassword⟩ := Prod.mk.inj huser
    have hown : p.1.ownCredentials = node.ownCredentials := by
      rw [NodeConfig.ownCredentials, NodeConfig.ownCredentials, h.kind_eq_of_wallet hp hc, hkind,
        huser, hpassword]
    obtain ⟨hp1, hp2, hp3⟩ := h.reaches p hp
    rw [hc, hendpoint] at hp1
    rw [hc, hown] at hp2
    refine ⟨hp1, hp2, ?_⟩
    rintro _ ⟨⟩
    exact hp3 c hc
  | newLink hkind hfound hopen =>
    obtain ⟨url, hurl, rfl⟩ := Bootstrap.of_openLink hopen
    refine ⟨?_, ?_, ?_⟩
    · simp [Adapter.channels, hurl]
    · simp [Adapter.channels, NodeConfig.ownCredentials, hkind]
    · rintro _ ⟨⟩
      rfl
  | ledger hkind hmake =>
    obtain ⟨url, hurl, rfl⟩ := Bootstrap.of_makeRipple hmake
    exact .of_channel rfl hurl rfl hkind.symm (by simp [hkind])
  | chain hkind hopen =>
    obtain ⟨url, hurl, rfl, -⟩ := Bootstrap.openHost_spec hopen
    exact .of_channel rfl hurl rfl hkind.symm (by simp [hkind])
  | @sharedHost channel token hkind hfound htoken =>
    rw [h.hosts] at hfound
    obtain ⟨p, hp, hchain, hchannel⟩ := exists_of_hostOf hfound
    have hmem : channel ∈ p.2.channels := by simp [Adapter.channels_of_chain hchannel]
    have hurl := (h.reaches p hp).endpoint channel hmem
    have hown := (h.reaches p hp).credentials channel hmem
    rw [(NodeConfig.onChain_iff.1 hchain).2] at hurl
    rw [NodeConfig.ownCredentials_of_ne (NodeConfig.ne_bitcoin_of_onChain hchain)] at hown
    exact .of_channel (congrArg (fun c => [c]) htoken) hurl hown hkind.symm (by simp [hkind])
  | newHost hkind hfound hopen htoken =>
    obtain ⟨url, hurl, rfl, -⟩ := Bootstrap.openHost_spec hopen
    exact .of_channel rfl (htoken ▸ hurl) (htoken ▸ rfl) hkind.symm (by simp [hkind])

/-- Numbers are given out in their order. -/
theorem below_of_makes (h : s.Tracks env t done) (hmakes : Makes env t s node a s') :
    s.next ≤ s'.next ∧ ∀ channel ∈ a.channels, channel.number < s'.next := by
  cases hmakes with
  | @sharedLink link hkind hfound =>
    obtain ⟨p, hp, c, hc, -, rfl⟩ := (h.links _ _).1 hfound
    have hbelow := h.below p hp
    rw [hc] at hbelow
    exact ⟨Nat.le_refl _, hbelow⟩
  | newLink hkind hfound hopen =>
    obtain ⟨url, -, rfl⟩ := Bootstrap.of_openLink hopen
    refine ⟨Nat.le_add_right _ _, ?_⟩
    simp [Adapter.channels]
  | ledger hkind hmake =>
    obtain ⟨url, -, rfl⟩ := Bootstrap.of_makeRipple hmake
    refine ⟨Nat.le_add_right _ _, ?_⟩
    simp [Adapter.channels]
  | chain hkind hopen =>
    obtain ⟨url, -, rfl, -, hnext, -⟩ := Bootstrap.openHost_spec hopen
    rw [hnext]
    refine ⟨Nat.le_add_right _ _, ?_⟩
    simp [Adapter.channels]
  | sharedHost hkind hfound htoken =>
    rw [h.hosts] at hfound
    obtain ⟨p, hp, -, hchannel⟩ := exists_of_hostOf hfound
    have hbelow := h.below p hp
    rw [Adapter.channels_of_chain hchannel, ← htoken] at hbelow
    exact ⟨Nat.le_refl _, hbelow⟩
  | newHost hkind hfound hopen htoken =>
    obtain ⟨url, -, rfl, -, hnext, -⟩ := Bootstrap.openHost_spec hopen
    rw [hnext]
    refine ⟨Nat.le_add_right _ _, ?_⟩
    simp [Adapter.channels, htoken]

/-- Channels under new numbers are not those of an earlier adapter. -/
theorem apart_of_le (h : s.Tracks env t done) (hp : p ∈ done)
    (hnew : ∀ channel ∈ a.channels, s.next ≤ channel.number) : p.2.Apart a := by
  intro channel hchannel other hother
  exact Nat.ne_of_lt (Nat.lt_of_lt_of_le (h.below p hp channel hchannel) (hnew other hother))

/-- Two nodes are related in the order in which they come. -/
theorem related_or (h : s.Tracks env t done) (hp : p ∈ done) (hq : q ∈ done) :
    p = q ∨ Related env p q ∨ Related env q p := by
  by_cases heq : p = q
  · exact .inl heq
  · have hpairs : done.Pairwise fun p q => Related env p q ∨ Related env q p :=
      h.related.imp .inl
    have : Std.Symm fun p q => Related env p q ∨ Related env q p := ⟨fun _ _ => Or.symm⟩
    exact .inr (hpairs.forall hp hq heq)

/-- An adapter on channels of its own is related to all earlier ones. -/
theorem related_of_new (h : s.Tracks env t done) (hp : p ∈ done)
    (hnew : ∀ channel ∈ a.channels, s.next ≤ channel.number)
    (hshares : ¬ p.1.SharesWallet env node) : Related env p (node, a) where
  shared hyes := absurd hyes hshares
  apart _ _ := h.apart_of_le hp hnew

/-- Output-based nodes of one key have the same channels, in whatever order they come. -/
theorem channels_eq_of_shares (h : s.Tracks env t done) (hp : p ∈ done) (hq : q ∈ done)
    (hshares : p.1.SharesWallet env q.1) : p.2.channels = q.2.channels := by
  rcases h.related_or hp hq with rfl | hrelated | hrelated
  · rfl
  · exact hrelated.shared hshares
  · exact (hrelated.shared hshares.symm).symm

/-- An output-based node has no channel in common with a node that is not of its key. -/
theorem apart_of_wallet (h : s.Tracks env t done) (hp : p ∈ done) (hq : q ∈ done)
    (hkind : q.1.kind = .bitcoin) (hshares : ¬ p.1.SharesWallet env q.1) : p.2.Apart q.2 := by
  rcases h.related_or hp hq with rfl | hrelated | hrelated
  · exact absurd ⟨hkind, hkind, rfl⟩ hshares
  · exact hrelated.apart hshares (by simp [hkind])
  · refine (hrelated.apart (fun hother => hshares hother.symm) fun htoken => ?_).symm
    exact NodeConfig.ne_bitcoin_of_onChain htoken.2 hkind

/-- An adapter that takes the channels of an earlier output-based one is related to the others as
    that one is. -/
theorem related_of_link (h : s.Tracks env t done) (hp : p ∈ done) (hq : q ∈ done)
    (hshares : q.1.SharesWallet env node) (hchannels : q.2.channels = a.channels) :
    Related env p (node, a) := by
  constructor
  · intro hpnode
    exact (h.channels_eq_of_shares hp hq (hpnode.trans hshares.symm)).trans hchannels
  · intro hpnode _
    have hapart : p.2.Apart q.2 :=
      h.apart_of_wallet hp hq hshares.1 fun hpq => hpnode (hpq.trans hshares)
    rw [Adapter.Apart, hchannels] at hapart
    exact hapart

/-- A token that takes the channel of its chain is related to the others as the chain is. -/
theorem related_of_host (h : s.Tracks env t done) (hp : p ∈ done) (hq : q ∈ done)
    (hkind : node.kind = .erc20) (hchain : q.1.onChain env (node.endpoint env) = true)
    (hchannels : q.2.channels = a.channels) : Related env p (node, a) := by
  have hwallet := NodeConfig.ne_bitcoin_of_onChain hchain
  have hendpoint := (NodeConfig.onChain_iff.1 hchain).2
  constructor
  · intro hpnode
    have hnode := hpnode.2.1
    rw [hkind] at hnode
    cases hnode
  · intro _ hother
    have hp_off : p.1.onChain env (node.endpoint env) ≠ true := fun hon => hother ⟨hkind, hon⟩
    have hapart : p.2.Apart q.2 := by
      rcases h.related_or hp hq with rfl | hrelated | hrelated
      · exact absurd hchain hp_off
      · refine hrelated.apart (fun hshares => hwallet hshares.2.1) fun htoken => ?_
        rw [hendpoint] at htoken
        exact hp_off htoken.2
      · refine (hrelated.apart (fun hshares => hwallet hshares.1) fun htoken => ?_).symm
        -- a token at the endpoint of the chain is on the chain
        have hsame := (NodeConfig.onChain_iff.1 htoken.2).2
        exact hp_off (NodeConfig.onChain_iff.2 ⟨.inr htoken.1, hsame.symm.trans hendpoint⟩)
    rw [Adapter.Apart, hchannels] at hapart
    exact hapart

theorem related_of_makes (h : s.Tracks env t done) (hmakes : Makes env t s node a s')
    (hp : p ∈ done) : Related env p (node, a) := by
  have hnot : node.kind ≠ .bitcoin → ¬ p.1.SharesWallet env node :=
    fun hkind hshares => hkind hshares.2.1
  cases hmakes with
  | sharedLink hkind hfound =>
    obtain ⟨q, hq, c, hc, hkey, rfl⟩ := (h.links _ _).1 hfound
    refine h.related_of_link hp hq ⟨h.kind_eq_of_wallet hq hc, hkind, hkey⟩ ?_
    rw [hc]
    rfl
  | newLink hkind hfound hopen =>
    obtain ⟨url, -, rfl⟩ := Bootstrap.of_openLink hopen
    refine h.related_of_new hp (by simp [Adapter.channels]) fun hshares => ?_
    -- an earlier node of the same key would have left its link
    obtain ⟨c, hc⟩ := Adapter.exists_wallet ((h.serves p hp).kind.trans hshares.1)
    rw [(h.links _ _).2 ⟨p, hp, c, hc, hshares.2.2, rfl⟩] at hfound
    cases hfound
  | ledger hkind hmake =>
    obtain ⟨url, -, rfl⟩ := Bootstrap.of_makeRipple hmake
    exact h.related_of_new hp (by simp [Adapter.channels]) (hnot (by simp [hkind]))
  | chain hkind hopen =>
    obtain ⟨url, -, rfl, -⟩ := Bootstrap.openHost_spec hopen
    exact h.related_of_new hp (by simp [Adapter.channels]) (hnot (by simp [hkind]))
  | sharedHost hkind hfound htoken =>
    rw [h.hosts] at hfound
    obtain ⟨q, hq, hchain, hchannel⟩ := exists_of_hostOf hfound
    refine h.related_of_host hp hq hkind hchain ?_
    rw [Adapter.channels_of_chain hchannel, ← htoken]
    rfl
  | newHost hkind hfound hopen htoken =>
    obtain ⟨url, -, rfl, -⟩ := Bootstrap.openHost_spec hopen
    exact h.related_of_new hp (by simp [Adapter.channels, htoken]) (hnot (by simp [hkind]))

/-! ### What is left to later nodes -/

theorem links_of_makes (h : s.Tracks env t done) (hmakes : Makes env t s node a s')
    (key : String × Option String × Option String) (link : Bitcoin.Link) :
    s'.links.lookup key = some link ↔ (∃ p ∈ done, ∃ c, p.2 = .bitcoin c ∧
      p.1.walletKey env = key ∧ c.link = link) ∨
        ∃ c, a = .bitcoin c ∧ node.walletKey env = key ∧ c.link = link := by
  rw [← h.links]
  cases hmakes with
  | sharedLink hkind hfound =>
    refine ⟨.inl, ?_⟩
    rintro (hold | ⟨c, hc, rfl, rfl⟩)
    · exact hold
    · cases hc
      exact hfound
  | @newLink new hkind hfound hopen =>
    rw [lookup_append_singleton]
    by_cases hkey : node.walletKey env = key
    · subst hkey
      simp [hfound]
    · have hother : (key == node.walletKey env) = false := beq_false_of_ne (Ne.symm hkey)
      simp [hother, hkey]
  | ledger hkind hmake => simp
  | chain hkind hopen =>
    obtain ⟨url, -, -, hlinks, -⟩ := Bootstrap.openHost_spec hopen
    simp [hlinks]
  | sharedHost hkind hfound htoken => simp
  | newHost hkind hfound hopen htoken =>
    obtain ⟨url, -, -, hlinks, -⟩ := Bootstrap.openHost_spec hopen
    simp [hlinks]

theorem hosts_of_makes (h : s.Tracks env t done) (hmakes : Makes env t s node a s')
    (endpoint : String) : s'.hosts.lookup endpoint = hostOf env endpoint (done ++ [(node, a)]) := by
  rw [h.hostOf_append, ← h.hosts]
  have hoff : node.kind ≠ .evm → node.kind ≠ .erc20 → node.onChain env endpoint = false := by
    intro hevm herc20
    simp [NodeConfig.onChain, hevm, herc20]
  have hon : node.kind = .evm ∨ node.kind = .erc20 →
      node.onChain env endpoint = decide (endpoint = node.endpoint env) := by
    intro hkind
    exact decide_eq_decide.2 ⟨fun hchain => hchain.2.symm, fun heq => ⟨hkind, heq.symm⟩⟩
  cases hmakes with
  | sharedLink hkind hfound => simp [hoff, hkind]
  | newLink hkind hfound hopen => simp [hoff, hkind]
  | ledger hkind hmake => simp [hoff, hkind]
  | chain hkind hopen =>
    obtain ⟨url, -, -, -, -, hhosts⟩ := Bootstrap.openHost_spec hopen
    rw [hhosts, hon (.inl hkind)]
    by_cases heq : endpoint = node.endpoint env <;> simp [heq, Adapter.chain?]
  | sharedHost hkind hfound htoken =>
    rw [hon (.inr hkind)]
    by_cases heq : endpoint = node.endpoint env
    · simp [heq, hfound]
    · simp [heq]
  | newHost hkind hfound hopen htoken =>
    obtain ⟨url, -, -, -, -, hhosts⟩ := Bootstrap.openHost_spec hopen
    rw [hhosts, hon (.inr hkind)]
    by_cases heq : endpoint = node.endpoint env <;> simp [heq, Adapter.chain?, htoken]

theorem tokens_of_makes (hmakes : Makes env t s node a s')
    (hkind : node.kind = .erc20) : a.chain? = s'.hosts.lookup (node.endpoint env) := by
  cases hmakes with
  | sharedLink hother => simp [hkind] at hother
  | newLink hother => simp [hkind] at hother
  | ledger hother => simp [hkind] at hother
  | chain hother => simp [hkind] at hother
  | sharedHost _ hfound htoken => rw [hfound, ← htoken, Adapter.chain?]
  | newHost _ hfound hopen htoken =>
    obtain ⟨url, -, -, -, -, hhosts⟩ := Bootstrap.openHost_spec hopen
    simp [hhosts, hfound, Adapter.chain?, htoken]

/-- After one more node, what is shared agrees with the adapters again. -/
theorem append (h : s.Tracks env t done)
    (hmade : Bootstrap.constructorOf env t s node = .ok (.ok a, s')) :
    s'.Tracks env t (done ++ [(node, a)]) := by
  have hmakes := Bootstrap.makes_of_constructorOf hmade
  have hserves : a.Serves t node := (Bootstrap.registers_of_constructorOf h.sound hmade).serves
  obtain ⟨hnext, hbelow⟩ := h.below_of_makes hmakes
  constructor
  case sound => exact Bootstrap.sound_of_constructorOf h.sound hmade
  case hosts => exact h.hosts_of_makes hmakes
  case serves =>
    simp only [List.forall_mem_append, List.forall_mem_singleton]
    exact ⟨h.serves, hserves⟩
  case reaches =>
    simp only [List.forall_mem_append, List.forall_mem_singleton]
    exact ⟨h.reaches, h.reaches_of_makes hmakes⟩
  case below =>
    simp only [List.forall_mem_append, List.forall_mem_singleton]
    exact ⟨fun p hp channel hc => Nat.lt_of_lt_of_le (h.below p hp channel hc) hnext, hbelow⟩
  case links =>
    intro key link
    rw [h.links_of_makes hmakes]
    simp only [List.mem_append, List.mem_singleton, or_and_right, exists_or, exists_eq_left]
  case related =>
    rw [List.pairwise_append]
    refine ⟨h.related, List.pairwise_singleton _ _, fun p hp q hq => ?_⟩
    rw [List.mem_singleton.1 hq]
    exact h.related_of_makes hmakes hp
  case tokens =>
    simp only [List.forall_mem_append, List.forall_mem_singleton]
    refine ⟨fun p hp hkind => ?_, fun hkind => ?_⟩
    · -- the chain of an earlier token has its first channel already
      obtain ⟨channel, hchannel⟩ :=
        h.exists_chain_of_onChain hp (NodeConfig.onChain_self (.inr hkind))
      rw [h.hostOf_append, ← h.tokens p hp hkind, hchannel]
      rfl
    · rw [← h.hosts_of_makes hmakes]
      exact tokens_of_makes hmakes hkind

/-- So it does after all nodes, and whatever else one more node keeps is so as well, by induction on
    the nodes. -/
theorem of_constructors {nodes : List NodeConfig} {made : List (String × Adapter)}
    {P : List Built → Prop}
    (hkeeps : ∀ {s s' : Sharing} {done : List Built} {node : NodeConfig} {a : Adapter},
      s.Tracks env t done → P done → Makes env t s node a s' → P (done ++ [(node, a)]))
    (h : s.Tracks env t done) (hdone : P done)
    (hmade : Bootstrap.constructors env t s nodes = .ok (made.map fun e => (e.1, .ok e.2))) :
    ∃ built : List Built, built.map (·.1) = nodes ∧
      made = built.map (fun p => (p.1.asset, p.2)) ∧
      P (done ++ built) ∧ ∃ last : Sharing, last.Tracks env t (done ++ built) := by
  induction nodes generalizing s done made with
  | nil =>
    cases made with
    | nil => exact ⟨[], rfl, rfl, by rwa [List.append_nil], s, by rwa [List.append_nil]⟩
    | cons e made => cases hmade
  | cons node rest ih =>
    rw [Bootstrap.constructors] at hmade
    obtain ⟨⟨outcome, later⟩, hnode, hmade⟩ := Result.bind_eq_ok_iff.1 hmade
    obtain ⟨more, hrest, hmade⟩ := Result.bind_eq_ok_iff.1 hmade
    cases made with
    | nil => cases hmade
    | cons e made =>
      obtain ⟨id, a⟩ := e
      obtain ⟨hhead, rfl⟩ := List.cons.inj (Except.ok.inj hmade)
      obtain ⟨rfl, rfl⟩ := Prod.mk.inj hhead
      have hnext := hkeeps h hdone (Bootstrap.makes_of_constructorOf hnode)
      obtain ⟨built, hnodes, rfl, hbuilt, last, hlast⟩ := ih (h.append hnode) hnext hrest
      rw [List.append_assoc] at hbuilt hlast
      refine ⟨(node, a) :: built, ?_, rfl, hbuilt, last, hlast⟩
      rw [List.map_cons, hnodes]

end Sharing.Tracks

namespace Config

open Registry (ofHistory)

/-- A registry that is built holds the adapters of its nodes in their order, in agreement with what
    they share, and whatever each of them keeps is so of all. -/
theorem keeps_of_registry {c : Config} {r : Registry Adapter} {P : List Built → Prop}
    (hkeeps : ∀ {s s' : Sharing} {done : List Built} {node : NodeConfig} {a : Adapter},
      s.Tracks env c.timeouts done → P done → Bootstrap.Makes env c.timeouts s node a s' →
        P (done ++ [(node, a)]))
    (hstart : P []) (h : c.registry env = .ok r) :
    ∃ (built : List Built) (last : Sharing), built.map (·.1) = c.nodes ∧
      r = ofHistory (built.map fun p => (p.1.asset, p.2)) ∧ P built ∧
      last.Tracks env c.timeouts built := by
  rw [registry] at h
  obtain ⟨entries, hentries, h⟩ := Result.bind_eq_ok_iff.1 h
  obtain ⟨made, rfl, rfl⟩ := construct_result_eq_ok_iff.1 h
  obtain ⟨built, hnodes, rfl, hbuilt, last, hlast⟩ :=
    Sharing.tracks_empty.of_constructors hkeeps hstart hentries
  exact ⟨built, last, hnodes, rfl, hbuilt, hlast⟩

theorem tracks_of_registry {c : Config} {r : Registry Adapter} (h : c.registry env = .ok r) :
    ∃ (built : List Built) (last : Sharing), built.map (·.1) = c.nodes ∧
      r = ofHistory (built.map fun p => (p.1.asset, p.2)) ∧ last.Tracks env c.timeouts built := by
  obtain ⟨built, last, hnodes, hr, -, hlast⟩ :=
    keeps_of_registry (P := fun _ => True) (fun _ _ _ => trivial) trivial h
  exact ⟨built, last, hnodes, hr, hlast⟩

end Config

end AssetOracle
