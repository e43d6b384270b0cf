import AssetOracle.Proofs.Registry.Sharing
import AssetOracle.Proofs.Rpc.Traffic

/-!
# The numbers of calls of nodes

The channels of a registry are told apart by their numbers, and no import is made on a channel of
other calls (`Built.ToldApart`): one more node keeps it so (`ToldApart.append`). So the calls of all
nodes that share a channel are numbered one after the other, in whatever order they are made, and
imports do not matter to the numbers of other calls (`Config.numbers_of_registry`).
-/

namespace AssetOracle

open Rpc (Channel Ask Talk Protocol Traffic)

namespace Adapter

variable {a : Adapter} {operation : Operation} {A : Ask → Prop}

/-- The channel for imports, for nodes that can watch addresses. -/
def importing? : Adapter → Option Channel
  | .bitcoin c => some c.link.importing
  | _ => none

/-- The dialect of a node. -/
def protocol : Adapter → Protocol
  | .bitcoin _ => .plain
  | .ripple _ => .plain
  | .evm _ => .evm
  | .token _ => .evm

theorem channels_eq (a : Adapter) : a.channels = a.ordinary :: a.importing?.toList := by
  cases a <;> rfl

theorem mem_channels {channel : Channel} :
    channel ∈ a.channels ↔ channel = a.ordinary ∨ a.importing? = some channel := by
  rw [channels_eq, List.mem_cons, Option.mem_toList]

namespace Operation

/-- Whether an operation is an import. -/
def isImport : Operation → Bool
  | .importing _ => true
  | _ => false

end Operation

/-- What an operation does. An import is an operation for each of its attempts, which go on when
    nobody waits for them. -/
def talk (a : Adapter) : Operation → Talk Unit
  | .info => a.info.silent
  | .balance address => (a.balance address).silent
  | .transaction id => (a.transaction id).silent
  | .importing address =>
    match a with
    | .bitcoin c => (c.importCall address).silent
    | _ => .done ()

/-- The channel that an operation makes its calls on, if it makes any. -/
def channelOf? (a : Adapter) (operation : Operation) : Option Channel :=
  if operation.isImport then a.importing? else some a.ordinary

theorem only_talk (a : Adapter) (operation : Operation) :
    (a.talk operation).Only fun ask => a.channelOf? operation = some ask.channel := by
  cases operation with
  | info => exact (only_info fun _ => rfl).silent
  | balance address => exact (only_balance fun _ => rfl).silent
  | transaction id => exact (only_transaction fun _ => rfl).silent
  | importing address =>
    cases a with
    | bitcoin c => exact (Bitcoin.Client.only_importCall fun _ => rfl).silent
    | ripple c => exact .pure ()
    | evm c => exact .pure ()
    | token t => exact .pure ()

theorem mem_channels_of_channelOf? {channel : Channel}
    (h : a.channelOf? operation = some channel) : channel ∈ a.channels := by
  rw [channelOf?] at h
  split at h
  · exact mem_channels.2 (.inr h)
  · exact mem_channels.2 (.inl (Option.some.inj h).symm)

theorem firstId_protocol (a : Adapter) :
    a.protocol.firstId = if a.kind = .bitcoin ∨ a.kind = .ripple then 1 else 0 := by
  cases a <;> rfl

end Adapter

variable {env : Environment} {t : Timeouts} {s s' : Sharing} {node : NodeConfig} {a : Adapter}
  {done : List Built}

/-- Whether the channels of all adapters are told apart by their numbers, no adapter makes ordinary
    calls on a channel for imports, and each speaks its own dialect. -/
structure Built.ToldApart (done : List Built) : Prop where
  same : ∀ p ∈ done, ∀ q ∈ done, ∀ channel ∈ p.2.channels, ∀ other ∈ q.2.channels,
    channel.number = other.number → channel = other
  alone : ∀ p ∈ done, ∀ q ∈ done, ∀ channel, p.2.importing? = some channel →
    channel.number ≠ q.2.ordinary.number
  speaks : ∀ p ∈ done, ∀ channel ∈ p.2.channels, channel.protocol = p.2.protocol

/-- The channels of one more adapter are those of an earlier one, or they are new. -/
theorem Sharing.Tracks.shares_or_opens (h : s.Tracks env t done)
    (hmakes : Bootstrap.Makes env t s node a s') :
    (∃ p ∈ done, p.2.ordinary = a.ordinary ∧ p.2.importing? = a.importing? ∧
      p.2.protocol = a.protocol) ∨
    (s.next ≤ a.ordinary.number ∧
      (∀ channel, a.importing? = some channel → channel.number = a.ordinary.number + 1) ∧
      ∀ channel ∈ a.channels, channel.protocol = a.protocol) := by
  cases hmakes with
  | sharedLink hkind hfound =>
    obtain ⟨p, hp, c, hc, -, rfl⟩ := (h.links _ _).1 hfound
    refine .inl ⟨p, hp, ?_⟩
    rw [hc]
    exact ⟨rfl, rfl, rfl⟩
  | newLink hkind hfound hopen =>
    obtain ⟨url, -, rfl⟩ := Bootstrap.of_openLink hopen
    refine .inr ⟨Nat.le_refl _, ?_, ?_⟩
    · rintro channel ⟨⟩
      rfl
    · simp [Adapter.channels, Adapter.protocol]
  | ledger hkind hmake =>
    obtain ⟨url, -, rfl⟩ := Bootstrap.of_makeRipple hmake
    refine .inr ⟨Nat.le_refl _, ?_, ?_⟩
    · rintro channel ⟨⟩
    · simp [Adapter.channels, Adapter.protocol]
  | chain hkind hopen =>
    obtain ⟨url, -, rfl, -⟩ := Bootstrap.openHost_spec hopen
    refine .inr ⟨Nat.le_refl _, ?_, ?_⟩
    · rintro channel ⟨⟩
    · simp [Adapter.channels, Adapter.protocol]
  | sharedHost hkind hfound htoken =>
    rw [h.hosts] at hfound
    obtain ⟨p, hp, -, hchannel⟩ := exists_of_hostOf hfound
    refine .inl ⟨p, hp, ?_⟩
    rw [← htoken] at hchannel
    cases hadapter : p.2 with
    | bitcoin c => simp [hadapter, Adapter.chain?] at hchannel
    | ripple c => simp [hadapter, Adapter.chain?] at hchannel
    | evm c =>
      rw [hadapter] at hchannel
      exact ⟨Option.some.inj hchannel, rfl, rfl⟩
    | token other =>
      rw [hadapter] at hchannel
      exact ⟨Option.some.inj hchannel, rfl, rfl⟩
  | newHost hkind hfound hopen htoken =>
    obtain ⟨url, -, rfl, -⟩ := Bootstrap.openHost_spec hopen
    refine .inr ⟨?_, ?_, ?_⟩
    · simp [Adapter.ordinary, htoken]
    · rintro channel ⟨⟩
    · simp [Adapter.channels, Adapter.protocol, htoken]

namespace Built.ToldApart

theorem nil : ToldApart [] where
  same _ hp := by cases hp
  alone _ hp := by cases hp
  speaks _ hp := by cases hp

/-- An adapter on the channels of an earlier one is told apart as that one is. -/
theorem append_shared (h : ToldApart done) {p : Built} (hp : p ∈ done)
    (hordinary : p.2.ordinary = a.ordinary) (himporting : p.2.importing? = a.importing?)
    (hprotocol : p.2.protocol = a.protocol) : ToldApart (done ++ [(node, a)]) := by
  have hlike : ∀ q ∈ done ++ [(node, a)], ∃ o ∈ done, o.2.ordinary = q.2.ordinary ∧
      o.2.importing? = q.2.importing? ∧ o.2.protocol = q.2.protocol ∧
        o.2.channels = q.2.channels := by
    intro q hq
    rcases List.mem_append.1 hq with hq | hq
    · exact ⟨q, hq, rfl, rfl, rfl, rfl⟩
    · obtain rfl := List.mem_singleton.1 hq
      refine ⟨p, hp, hordinary, himporting, hprotocol, ?_⟩
      rw [Adapter.channels_eq, Adapter.channels_eq, hordinary, himporting]
  constructor
  · intro q hq o ho
    obtain ⟨q', hq', -, -, -, hqchannels⟩ := hlike q hq
    obtain ⟨o', ho', -, -, -, hochannels⟩ := hlike o ho
    rw [← hqchannels, ← hochannels]
    exact h.same q' hq' o' ho'
  · intro q hq o ho
    obtain ⟨q', hq', -, hqimporting, -⟩ := hlike q hq
    obtain ⟨o', ho', hoordinary, -⟩ := hlike o ho
    rw [← hqimporting, ← hoordinary]
    exact h.alone q' hq' o' ho'
  · intro q hq
    obtain ⟨q', hq', -, -, hqprotocol, hqchannels⟩ := hlike q hq
    rw [← hqprotocol, ← hqchannels]
    exact h.speaks q' hq'

/-- New channels have numbers that no earlier channel has, and differ from one another. -/
theorem append_new (h : ToldApart done) {next : Nat}
    (hbelow : ∀ p ∈ done, ∀ channel ∈ p.2.channels, channel.number < next)
    (hordinary : next ≤ a.ordinary.number)
    (himporting : ∀ channel, a.importing? = some channel →
      channel.number = a.ordinary.number + 1)
    (hspeaks : ∀ channel ∈ a.channels, channel.protocol = a.protocol) :
    ToldApart (done ++ [(node, a)]) := by
  have hnew : ∀ channel ∈ a.channels, next ≤ channel.number := by
    intro channel hchannel
    rcases Adapter.mem_channels.1 hchannel with rfl | hchannel
    · exact hordinary
    · rw [himporting channel hchannel]
      exact Nat.le_succ_of_le hordinary
  have hold : ∀ p ∈ done, ∀ channel ∈ p.2.channels, ∀ other ∈ a.channels,
      channel.number ≠ other.number := by
    intro p hp channel hchannel other hother
    exact Nat.ne_of_lt (Nat.lt_of_lt_of_le (hbelow p hp channel hchannel) (hnew other hother))
  have hown : a.ordinary ∈ a.channels := Adapter.mem_channels.2 (.inl rfl)
  constructor
  · simp only [List.forall_mem_append, List.forall_mem_singleton]
    refine ⟨fun p hp => ⟨h.same p hp, ?_⟩, fun q hq => ?_, ?_⟩
    · intro channel hchannel other hother hnumber
      exact absurd hnumber (hold p hp channel hchannel other hother)
    · intro channel hchannel other hother hnumber
      exact absurd hnumber.symm (hold q hq other hother channel hchannel)
    · intro channel hchannel other hother hnumber
      rcases Adapter.mem_channels.1 hchannel with rfl | hchannel <;>
        rcases Adapter.mem_channels.1 hother with rfl | hother
      · rfl
      · rw [himporting other hother] at hnumber
        omega
      · rw [himporting channel hchannel] at hnumber
        omega
      · exact Option.some.inj (hchannel.symm.trans hother)
  · simp only [List.forall_mem_append, List.forall_mem_singleton]
    refine ⟨fun p hp => ⟨h.alone p hp, fun channel hchannel => ?_⟩, fun q hq => ?_, ?_⟩
    · exact hold p hp channel (Adapter.mem_channels.2 (.inr hchannel)) _ hown
    · intro channel hchannel
      exact (hold q hq _ (Adapter.mem_channels.2 (.inl rfl)) channel
        (Adapter.mem_channels.2 (.inr hchannel))).symm
    · intro channel hchannel
      rw [himporting channel hchannel]
      omega
  · simp only [List.forall_mem_append, List.forall_mem_singleton]
    exact ⟨h.speaks, hspeaks⟩

/-- One more node keeps the channels apart. -/
theorem append (htracks : s.Tracks env t done) (h : ToldApart done)
    (hmakes : Bootstrap.Makes env t s node a s') : ToldApart (done ++ [(node, a)]) := by
  rcases htracks.shares_or_opens hmakes with ⟨p, hp, hordinary, himporting, hprotocol⟩ | hopens
  · exact h.append_shared hp hordinary himporting hprotocol
  · obtain ⟨hordinary, himporting, hspeaks⟩ := hopens
    exact h.append_new htracks.below hordinary himporting hspeaks

end Built.ToldApart

/-! ## Runs -/

/-- What an operation on the adapter of a node does. -/
def Built.talkOf (o : Built × Adapter.Operation) : Talk Unit := o.1.2.talk o.2

/-- The calls on the channel of a number, in the order of their numbers. -/
def Rpc.Traffic.on {ι : Type} (t : Traffic ι) (number : Nat) : List (Traffic.Numbered ι) :=
  t.numbered.filter (·.ask.channel.number = number)

theorem Rpc.Traffic.length_on {ι : Type} (t : Traffic ι) (number : Nat) :
    (t.on number).length = (t.numbered.map (·.ask.channel)).countP (·.number = number) := by
  rw [List.countP_map, List.countP_eq_length_filter]
  rfl

section Runs

variable {history : List (Traffic.Event (Built × Adapter.Operation))}
  {t : Traffic (Built × Adapter.Operation)} {built : List Built}

/-- Every call is made by an operation that has begun, on the channel of that operation. -/
theorem Rpc.Traffic.Sound.channel_of_mem (h : t.Sound Built.talkOf history)
    {call : Traffic.Numbered (Built × Adapter.Operation)} (hcall : call ∈ t.numbered) :
    .began call.operation ∈ history ∧
      call.operation.1.2.channelOf? call.operation.2 = some call.ask.channel := by
  obtain ⟨stage, hthread⟩ := h.owned call hcall
  obtain ⟨rest, hafter⟩ := (h.follows _ _ hthread).exists_after
  have hmade : call.ask ∈ t.madeBy call.thread :=
    List.mem_map_of_mem (List.mem_filter.2 ⟨hcall, decide_eq_true rfl⟩)
  have honly := hafter.only (Adapter.only_talk call.operation.1.2 call.operation.2)
  exact ⟨h.began _ (List.mem_of_getElem? hthread), honly.2 _ hmade⟩

/-- The calls on a channel are numbered one after the other, from 1 on, or from 0 on in the dialect
    of account-based nodes. -/
theorem Built.ToldApart.ids_eq (hapart : Built.ToldApart built)
    (hkind : ∀ p ∈ built, p.2.kind = p.1.kind) (h : t.Sound Built.talkOf history)
    (hbegan : ∀ p operation, .began (p, operation) ∈ history → p ∈ built)
    (hfew : t.numbered.length < UInt64.size) {p : Built} (hp : p ∈ built) {channel : Channel}
    (hchannel : channel ∈ p.2.channels) :
    (t.on channel.number).map (·.id.toNat) =
      List.range' (if p.1.kind = .bitcoin ∨ p.1.kind = .ripple then 1 else 0)
        (t.on channel.number).length := by
  have hfirst : ∀ call ∈ t.numbered, call.ask.channel.number = channel.number →
      call.ask.channel.protocol.firstId =
        if p.1.kind = .bitcoin ∨ p.1.kind = .ripple then 1 else 0 := by
    intro call hcall hnumber
    obtain ⟨hmem, hown⟩ := h.channel_of_mem hcall
    have hsame : call.ask.channel = channel :=
      hapart.same _ (hbegan _ _ hmem) p hp _ (Adapter.mem_channels_of_channelOf? hown) channel
        hchannel hnumber
    rw [hsame, hapart.speaks p hp channel hchannel, Adapter.firstId_protocol, hkind p hp]
  exact Rpc.ids_of_stamp (h.requests_eq hfew) hfirst

/-- Imports and other calls are numbered as if there were no calls of the other sort. -/
theorem Built.ToldApart.requests_of_filter (hapart : Built.ToldApart built)
    (h : t.Sound Built.talkOf history)
    (hbegan : ∀ p operation, .began (p, operation) ∈ history → p ∈ built)
    (hfew : t.numbered.length < UInt64.size) (sort : Bool) :
    (t.numbered.filter (·.operation.2.isImport = sort)).map Traffic.Numbered.request =
      Rpc.stamp .start ((t.numbered.filter (·.operation.2.isImport = sort)).map (·.ask)) := by
  have hdiffers : ∀ x ∈ t.numbered, ∀ y ∈ t.numbered, x.operation.2.isImport = true →
      y.operation.2.isImport = false → x.ask.channel.number ≠ y.ask.channel.number := by
    intro x hx y hy himport hordinary
    obtain ⟨hxbegan, hxchannel⟩ := h.channel_of_mem hx
    obtain ⟨hybegan, hychannel⟩ := h.channel_of_mem hy
    rw [Adapter.channelOf?, himport, if_pos rfl] at hxchannel
    rw [Adapter.channelOf?, hordinary, if_neg Bool.false_ne_true] at hychannel
    rw [← Option.some.inj hychannel]
    exact hapart.alone _ (hbegan _ _ hxbegan) _ (hbegan _ _ hybegan) _ hxchannel
  refine Rpc.stamp_of_filter (h.requests_eq hfew) fun x hx y hy hkeep hdrop => ?_
  have hxsort : x.operation.2.isImport = sort := of_decide_eq_true hkeep
  have hysort : y.operation.2.isImport ≠ sort := of_decide_eq_false hdrop
  cases sort with
  | true => exact hdiffers x hx y hy hxsort (Bool.eq_false_iff.2 hysort)
  | false => exact (hdiffers y hy x hx (Bool.eq_true_of_not_eq_false hysort) hxsort).symm

end Runs

namespace Config

open Registry (ofHistory)

/-- How calls are numbered in every run. Let a registry be built, and let operations on its adapters
    take their steps in any order: begin, take a number for the next call, send the call, go on
    with any answer, or be given up, with fewer than 2^64 calls in all. Output-based nodes of one
    URL with the same credentials share their channels, channels are told apart by their numbers,
    and imports are made on a channel that no other call is made on. Then the calls on each channel,
    for whichever nodes, are numbered 1, 2 and so on without a gap, or from 0 on for account-based
    nodes; each call that has its number has been sent once or is about to be, and an operation
    takes a number for each call of its talk, so a call that has ended was made once whatever the
    answer. All calls are numbered as if they were made one after the other, and imports and other
    calls are numbered as if there were none of the other sort. -/
theorem numbers_of_registry (env : Environment) (c : Config) (r : Registry Adapter)
    (h : c.registry env = .ok r) :
    ∃ built : List Built, built.map (·.1) = c.nodes ∧
      r = ofHistory (built.map fun p => (p.1.asset, p.2)) ∧
      (∀ p ∈ built, p.2.kind = p.1.kind) ∧
      (∀ p ∈ built, ∀ q ∈ built, p.1.SharesWallet env q.1 → p.2.channels = q.2.channels) ∧
      (∀ p ∈ built, ∀ q ∈ built, ∀ channel ∈ p.2.channels, ∀ other ∈ q.2.channels,
        channel.number = other.number → channel = other) ∧
      (∀ p ∈ built, ∀ q ∈ built, ∀ channel, p.2.importing? = some channel →
        channel.number ≠ q.2.ordinary.number) ∧
      ∀ (history : List (Traffic.Event (Built × Adapter.Operation)))
        (t : Traffic (Built × Adapter.Operation)),
        (∀ p operation, .began (p, operation) ∈ history → p ∈ built) →
        ({} : Traffic (Built × Adapter.Operation)).run Built.talkOf history = some t →
        t.numbered.length < UInt64.size →
        (∀ p ∈ built, ∀ channel ∈ p.2.channels, (t.on channel.number).map (·.id.toNat) =
          List.range' (if p.1.kind = .bitcoin ∨ p.1.kind = .ripple then 1 else 0)
            (t.on channel.number).length) ∧
        (t.sent ++ t.pending).Perm t.numbered ∧
        (∀ (place : Nat) thread, t.threads[place]? = some thread →
          ∃ rest, (Built.talkOf thread.operation).After (t.madeBy place) rest) ∧
        (∀ (α : Type) (channel : Channel) (method : String) (params : List Json)
          (decoder : Decoder α) (made : List Ask) (value : Except Rpc.Failure α),
          (Rpc.call channel method params decoder).After made (.done value) →
            made = [⟨channel, ⟨method, params⟩⟩]) ∧
        (∀ call ∈ t.numbered,
          call.operation.1.2.channelOf? call.operation.2 = some call.ask.channel) ∧
        t.numbered.map Traffic.Numbered.request = Rpc.stamp .start (t.numbered.map (·.ask)) ∧
        ∀ sort, (t.numbered.filter (·.operation.2.isImport = sort)).map Traffic.Numbered.request =
          Rpc.stamp .start ((t.numbered.filter (·.operation.2.isImport = sort)).map (·.ask)) := by
  obtain ⟨built, last, hnodes, hr, hapart, htracks⟩ :=
    keeps_of_registry (fun htracks hdone hmakes => Built.ToldApart.append htracks hdone hmakes)
      .nil h
  have hkind : ∀ p ∈ built, p.2.kind = p.1.kind := fun p hp => (htracks.serves p hp).kind
  refine ⟨built, hnodes, hr, hkind, fun p hp q hq => htracks.channels_eq_of_shares hp hq,
    hapart.same, hapart.alone, fun history t hbegan hrun hfew => ?_⟩
  have hsound := Traffic.Sound.of_run hrun
  refine ⟨fun p hp channel hchannel => hapart.ids_eq hkind hsound hbegan hfew hp hchannel,
    hsound.sent_perm, fun place thread hthread => (hsound.follows place thread hthread).exists_after,
    fun _ _ _ _ _ _ _ hafter => Talk.made_of_call hafter,
    fun call hcall => (hsound.channel_of_mem hcall).2, hsound.requests_eq hfew,
    hapart.requests_of_filter hsound hbegan hfew⟩

/-- An output-based node for an asset. -/
def walletNode (asset : String) : NodeConfig where
  asset
  kind := .bitcoin
  url := some "http://node"

/-- Two assets at one node. -/
def sharedWallet : Config where
  nodes := [walletNode "BTC", walletNode "LTC"]

/-- The state for one asset, a balance of the other and an import, of which the balance gets its
    number first and is sent last. -/
def interleaved (p q : Built) : List (Traffic.Event (Built × Adapter.Operation)) :=
  [.began (p, .info), .began (q, .balance "a"), .began (p, .importing "b"), .numbered 1,
    .numbered 2, .numbered 0, .sent 2, .sent 0, .answered 2 .late, .sent 1]

theorem run_interleaved (first second : NodeConfig) (a b : Bitcoin.Client) :
    ∃ t, ({} : Traffic (Built × Adapter.Operation)).run Built.talkOf
        (interleaved (first, .bitcoin a) (second, .bitcoin b)) = some t ∧
      t.numbered.map (·.ask.channel) =
        [b.link.ordinary, a.link.importing, a.link.ordinary] := ⟨_, rfl, rfl⟩

/-- Two assets draw their numbers from one counter, and an import draws its own from another. -/
theorem numbers_of_registry_sharedWallet :
    ∃ r, sharedWallet.registry (fun _ => none) = .ok r ∧
      ∃ (a b : Bitcoin.Client) (t : Traffic (Built × Adapter.Operation)),
        ({} : Traffic (Built × Adapter.Operation)).run Built.talkOf
          (interleaved (walletNode "BTC", .bitcoin a) (walletNode "LTC", .bitcoin b)) = some t ∧
        b.link.ordinary = a.link.ordinary ∧
        (t.on a.link.ordinary.number).map (·.id.toNat) = [1, 2] ∧
        (t.on a.link.importing.number).map (·.id.toNat) = [1] := by
  have husable : ∀ node ∈ sharedWallet.nodes, node.Usable fun _ => none := by
    intro node hnode
    rcases List.mem_pair.1 hnode with rfl | rfl <;>
      exact .of_ne_erc20 (by decide +kernel) (by decide)
  obtain ⟨r, hr⟩ := exists_registry_iff.2 husable
  obtain ⟨built, hnodes, -, hkind, hshares, -, halone, hruns⟩ := numbers_of_registry _ _ r hr
  obtain ⟨⟨first, p⟩, tail, rfl, hfirst, htail⟩ := List.map_eq_cons_iff.1 hnodes
  obtain ⟨⟨second, q⟩, rest, rfl, hsecond, hrest⟩ := List.map_eq_cons_iff.1 htail
  obtain rfl := List.map_eq_nil_iff.1 hrest
  obtain rfl : first = walletNode "BTC" := hfirst
  obtain rfl : second = walletNode "LTC" := hsecond
  obtain ⟨a, rfl⟩ := Adapter.exists_wallet (hkind _ List.mem_cons_self)
  obtain ⟨b, rfl⟩ := Adapter.exists_wallet (hkind _ (List.mem_cons_of_mem _ List.mem_cons_self))
  have hchannels := hshares _ List.mem_cons_self _ (List.mem_cons_of_mem _ List.mem_cons_self)
    ⟨rfl, rfl, rfl⟩
  have hordinary : b.link.ordinary = a.link.ordinary := (List.cons.inj hchannels).1.symm
  have happart : a.link.importing.number ≠ a.link.ordinary.number :=
    halone _ List.mem_cons_self _ List.mem_cons_self _ rfl
  obtain ⟨t, hrun, hmade⟩ := run_interleaved (walletNode "BTC") (walletNode "LTC") a b
  have hlength : t.numbered.length = 3 := by
    rw [← List.length_map, hmade]
    rfl
  have hbegan : ∀ p operation, .began (p, operation) ∈
      interleaved (walletNode "BTC", .bitcoin a) (walletNode "LTC", .bitcoin b) →
        p ∈ [(walletNode "BTC", .bitcoin a), (walletNode "LTC", .bitcoin b)] := by
    intro p operation hmem
    simp only [interleaved, List.mem_cons, Traffic.Event.began.injEq, Prod.mk.injEq, reduceCtorEq,
      List.not_mem_nil, or_false] at hmem ⊢
    rcases hmem with ⟨rfl, -⟩ | ⟨rfl, -⟩ | ⟨rfl, -⟩
    · exact .inl rfl
    · exact .inr rfl
    · exact .inl rfl
  obtain ⟨hids, -⟩ := hruns _ t hbegan hrun (by rw [hlength]; decide)
  refine ⟨r, hr, a, b, t, hrun, hordinary, ?_, ?_⟩
  · rw [hids _ List.mem_cons_self a.link.ordinary List.mem_cons_self, Traffic.length_on,
      hmade]
    simp [hordinary, happart, walletNode, List.range'_succ]
  · rw [hids _ List.mem_cons_self a.link.importing
      (List.mem_cons_of_mem _ List.mem_cons_self), Traffic.length_on, hmade]
    simp [hordinary, happart.symm, walletNode]

end Config

end AssetOracle
