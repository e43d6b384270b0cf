import AssetOracle.Proofs.Evm.Lookup

/-!
# How far transactions are confirmed

A look-up that ends with a transaction has had a reply to each of its calls, and the confirmation
that it reports is read off these replies.
-/

namespace AssetOracle

open Rpc (Talk Ask)

/-! ## Output-based nodes -/

theorem Bitcoin.RawTransaction.gives_confirmations {value : Json} (raw : RawTransaction)
    (h : value.decode RawTransaction.decode = .ok raw) :
    value.Gives "confirmations" (Decoder.optional Decoder.word) none raw.confirmations := by
  rintro members rfl
  obtain ⟨row, hrow, rfl⟩ := Result.map_eq_ok_iff.1 h
  obtain ⟨id, confirmations, inputs, outputs, ⟨⟩⟩ := row
  exact Json.gives_of_recordOfMembers (by decide) rfl hrow (.inr (.inl ⟨rfl, HEq.rfl⟩)) members rfl

namespace Bitcoin.Client

variable {c : Client} {id : String} {node : Talk.Node} {tx : Transaction}

/-- The call that looks a transaction up. -/
def lookupAsk (c : Client) (id : String) : Ask :=
  ⟨c.link.ordinary, ⟨"getrawtransaction", [.text id, .nat 1]⟩⟩

/-- What a node says when a transaction is looked up: how many confirmations it counts, if any. -/
def Told (c : Client) (node : Talk.Node) (id : String) (counter : Option UInt64) : Prop :=
  ∃ after r result raw, node 0 (c.lookupAsk id) = .reply after r ∧ r.outcome = .ok result ∧
    result.decode RawTransaction.decode = .ok raw ∧ raw.confirmations = counter ∧
    result.Gives "confirmations" (Decoder.optional Decoder.word) none counter

/-- A call that ends with a value has had a reply with it. -/
theorem reply_of_call {α : Type} {operation method : String} {params : List Json}
    {decoder : Decoder α} {n : Nat} {value : α}
    (h : (c.call operation method params decoder).result (Talk.answersOf node) n = .ok value) :
    ∃ after r result, node n ⟨c.link.ordinary, ⟨method, params⟩⟩ = .reply after r ∧
      r.outcome = .ok result ∧ result.decode decoder = .ok value := by
  obtain ⟨r, result, hanswer, hresult, hvalue⟩ :=
    Rpc.Answer.decode_eq_ok_iff.1 (Result.mapError_eq_ok_iff.1 h)
  obtain ⟨after, hreply⟩ := Talk.exists_reaction_of_reply hanswer
  exact ⟨after, r, result, hreply, hresult, hvalue⟩

theorem told_of_rawTransaction {raw : RawTransaction}
    (h : (c.rawTransaction id).result (Talk.answersOf node) 0 = .ok raw) :
    c.Told node id raw.confirmations := by
  obtain ⟨after, r, result, hreply, hresult, hraw⟩ := reply_of_call h
  exact ⟨after, r, result, raw, hreply, hresult, hraw, rfl, raw.gives_confirmations hraw⟩

/-- A look-up that ends with a transaction has had a reply with it. -/
theorem rawTransaction_of_transaction
    (h : (c.transaction id).result (Talk.answersOf node) 0 = .ok tx) :
    ∃ raw sender, (c.rawTransaction id).result (Talk.answersOf node) 0 = .ok raw ∧
      tx = transactionFrom raw sender := by
  unfold transaction at h
  obtain ⟨raw, hfirst, h⟩ := Talk.result_bind_eq_ok (by intro e; rfl) h
  cases hinput : raw.inputs.head? with
  | none =>
    simp only [hinput] at h
    cases h
  | some input =>
    simp only [hinput] at h
    rw [Talk.result_bind] at h
    obtain ⟨sender, -, rfl⟩ := Result.map_eq_ok_iff.1 h
    exact ⟨raw, sender, hfirst, rfl⟩

/-- The confirmation comes from the reply to the first look-up, whatever that of the sender says. -/
theorem told_of_transaction
    (h : (c.transaction id).result (Talk.answersOf node) 0 = .ok tx) :
    ∃ counter, c.Told node id counter ∧ tx.confirmation = .ofObserved (counter.getD 0) := by
  obtain ⟨raw, sender, hraw, rfl⟩ := rawTransaction_of_transaction h
  exact ⟨raw.confirmations, told_of_rawTransaction hraw, rfl⟩

end Bitcoin.Client

/-! ## Ledger nodes -/

theorem Ripple.Payment.gives_validated {value : Json} (payment : Payment)
    (h : value.decode Payment.decode = .ok payment) :
    value.Gives "validated" Decoder.bool false payment.validated := by
  rintro members rfl
  obtain ⟨row, hrow, rfl⟩ := Result.map_eq_ok_iff.1 h
  obtain ⟨hash, account, destination, amount, validated, ⟨⟩⟩ := row
  exact Json.gives_of_recordOfMembers (by decide) rfl hrow
    (.inr (.inr (.inr (.inr (.inl ⟨rfl, HEq.rfl⟩))))) members rfl

namespace Ripple.Client

variable {c : Client} {id : String} {node : Talk.Node} {tx : Transaction}

/-- The call that looks a transaction up. -/
def lookupAsk (c : Client) (id : String) : Ask :=
  ⟨c.channel, ⟨"tx", [.ofMembers [("transaction", .text id)]]⟩⟩

/-- What a node says when a transaction is looked up: whether its ledger is validated. -/
def Told (c : Client) (node : Talk.Node) (id : String) (validated : Bool) : Prop :=
  ∃ after r given result payment, node 0 (c.lookupAsk id) = .reply after r ∧ r.outcome = .ok given ∧
    given.decode Decoder.any = .ok result ∧ result.decode Payment.decode = .ok payment ∧
    payment.validated = validated ∧ result.Gives "validated" Decoder.bool false validated

/-- A result has a value unless it reports an error. -/
theorem interpret_eq_ok_iff {α : Type} {operation : String} {decoder : Decoder α}
    {reply : Except Rpc.Failure Json} {value : α} :
    c.interpret operation decoder reply = .ok value ↔
      ∃ result, reply = .ok result ∧ reportedError result = none ∧
        result.decode decoder = .ok value := by
  unfold interpret
  cases reply with
  | error failure => simp
  | ok result =>
    cases hreported : reportedError result with
    | some message => simp [hreported]
    | none => simp [hreported, Result.mapError_eq_ok_iff]

/-- A call that ends with a value has had a reply with it. -/
theorem reply_of_request {α : Type} {operation method : String} {params : Json}
    {decoder : Decoder α} {n : Nat} {value : α}
    (h : (c.request operation method params decoder).result (Talk.answersOf node) n = .ok value) :
    ∃ after r given result, node n ⟨c.channel, ⟨method, [params]⟩⟩ = .reply after r ∧
      r.outcome = .ok given ∧ given.decode Decoder.any = .ok result ∧
      result.decode decoder = .ok value := by
  unfold request at h
  rw [Talk.result_bind] at h
  obtain ⟨result, hreply, -, hdecode⟩ := interpret_eq_ok_iff.1 h
  obtain ⟨r, given, hanswer, hgiven, hresult⟩ := Rpc.Answer.decode_eq_ok_iff.1 hreply
  obtain ⟨after, hreply⟩ := Talk.exists_reaction_of_reply hanswer
  exact ⟨after, r, given, result, hreply, hgiven, hresult, hdecode⟩

theorem told_of_transaction
    (h : (c.transaction id).result (Talk.answersOf node) 0 = .ok tx) :
    ∃ validated, c.Told node id validated ∧ tx.confirmation = .ofFinality validated := by
  unfold transaction at h
  rw [Talk.result_bind] at h
  obtain ⟨payment, hpayment, htx⟩ := Result.bind_eq_ok_iff.1 h
  obtain ⟨after, r, given, result, hreply, hgiven, hresult, hdecode⟩ := reply_of_request hpayment
  obtain ⟨value, -, rfl⟩ := Result.map_eq_ok_iff.1 htx
  exact ⟨payment.validated, ⟨after, r, given, result, payment, hreply, hgiven, hresult, hdecode, rfl,
    payment.gives_validated hdecode⟩, rfl⟩

end Ripple.Client

/-! ## Account-based nodes -/

namespace Evm

variable {α : Type} {asset operation id method : String} {channel : Rpc.Channel}
  {params : List Json} {decoder : Decoder α} {node : Talk.Node} {n : Nat} {tx : Transaction}
  {block block' : Option UInt64} {head head' : UInt64}

theorem AccountTransaction.gives_block {value : Json} (t : AccountTransaction)
    (h : value.decode (Decoder.optional AccountTransaction.decode) = .ok (some t)) :
    value.Gives "blockNumber" (Decoder.optional decodeWord) none t.block := by
  rintro members rfl
  obtain ⟨_, ht, hsame⟩ := Result.map_eq_ok_iff.1 h
  cases hsame
  obtain ⟨row, hrow, rfl⟩ := Result.map_eq_ok_iff.1 ht
  obtain ⟨signer, recipient, value, input, block, ⟨⟩⟩ := row
  exact Json.gives_of_recordOfMembers (by decide) rfl hrow
    (.inr (.inr (.inr (.inr (.inl ⟨rfl, HEq.rfl⟩))))) members rfl

/-- What a node says when a transaction is looked up: the block that it is in, if it is in one, and
    the head of the chain. -/
structure Told (node : Talk.Node) (channel : Rpc.Channel) (id : String) (block : Option UInt64)
    (head : UInt64) : Prop where
  transaction : ∃ hash after r result t, FixedBytes.parse 32 id = .ok hash ∧
    node 0 (lookupAsk channel hash) = .reply after r ∧ bodyOutcome r.body = .ok result ∧
    result.decode (Decoder.optional AccountTransaction.decode) = .ok (some t) ∧ t.block = block ∧
    result.Gives "blockNumber" (Decoder.optional decodeWord) none block
  head : ∃ after r, node 1 (headAsk channel) = .reply after r ∧ replyValue decodeWord r = .ok head

/-- A node says one thing only. -/
theorem Told.unique (h : Told node channel id block head) (h' : Told node channel id block' head') :
    block = block' ∧ head = head' := by
  obtain ⟨⟨hash, after, r, result, t, hhash, hreply, hresult, ht, rfl, -⟩,
    ⟨later, r₁, hreply₁, hhead⟩⟩ := h
  obtain ⟨⟨hash', after', r', result', t', hhash', hreply', hresult', ht', rfl, -⟩,
    ⟨later', r₁', hreply₁', hhead'⟩⟩ := h'
  rw [hhash] at hhash'
  cases hhash'
  rw [hreply] at hreply'
  cases hreply'
  rw [hresult] at hresult'
  cases hresult'
  rw [ht] at ht'
  cases ht'
  rw [hreply₁] at hreply₁'
  cases hreply₁'
  rw [hhead] at hhead'
  cases hhead'
  exact ⟨rfl, rfl⟩

theorem told_of_says {hash : Hash} {host : AccountTransaction}
    (hhash : FixedBytes.parse 32 id = .ok hash) (hshows : Shows node channel hash host)
    (hhead : Says node 1 (headAsk channel) decodeWord head) :
    Told node channel id host.block head := by
  obtain ⟨after, r, hreply, hvalue⟩ := hshows.exists_reply
  obtain ⟨result, hresult, ht⟩ := of_replyValue hvalue
  exact ⟨⟨hash, after, r, result, host, hhash, hreply, hresult, ht, rfl, host.gives_block ht⟩,
    hhead.exists_reply⟩

theorem told_of_locate {asset : String} {located : Located}
    (h : ((locate asset channel id).run node 0).value = some (.ok located)) :
    ∃ block head, Told node channel id block head ∧
      located.observed = Confirmation.blocksBetween head block := by
  obtain ⟨hhash, hshows, head, hhead, hobserved⟩ := value_locate_eq_ok_iff.1 h
  exact ⟨located.transaction.block, head, told_of_says hhash hshows hhead, hobserved⟩

end Evm

/-! ## Confirmations in the course of time -/

namespace Confirmation

variable {head head' block : UInt64} {n n' : UInt64}

theorem blocksBetween_mono (h : head ≤ head') :
    blocksBetween head (some block) ≤ blocksBetween head' (some block) := by
  have hheads : head.toNat ≤ head'.toNat := UInt64.le_iff_toNat_le.1 h
  apply UInt64.le_iff_toNat_le.2
  rw [toNat_blocksBetween, toNat_blocksBetween]
  omega

theorem confirmed_ofObserved_mono (h : n ≤ n') (hconfirmed : (ofObserved n).confirmed = true) :
    (ofObserved n').confirmed = true := by
  have hn : defaultThreshold ≤ n := of_decide_eq_true hconfirmed
  exact decide_eq_true (UInt64.le_trans hn h)

theorem toNat_blocksBetween_elim (head : UInt64) (block : Option UInt64) :
    (blocksBetween head block).toNat = block.elim 0 fun b => head.toNat - b.toNat := by
  cases block with
  | none => rfl
  | some b => exact toNat_blocksBetween head b

end Confirmation

namespace Adapter

variable {a : Adapter} {node : Talk.Node} {id : String} {tx : Transaction} {channel : Rpc.Channel}

/-- The channel to the chain that an account-based adapter's transactions are in. -/
def chain? : Adapter → Option Rpc.Channel
  | .evm c => some c.channel
  | .token t => some t.channel
  | _ => none

/-- An account-based adapter is for the asset of its chain or for a token. -/
theorem cases_of_chain (h : a.chain? = some channel) :
    (∃ c, a = .evm c ∧ c.channel = channel) ∨ ∃ t, a = .token t ∧ t.channel = channel := by
  cases a with
  | bitcoin c => cases h
  | ripple c => cases h
  | evm c => exact .inl ⟨c, rfl, Option.some.inj h⟩
  | token t => exact .inr ⟨t, rfl, Option.some.inj h⟩

theorem told_of_chain (hchain : a.chain? = some channel)
    (h : ((a.client node).transaction id).ending = .returned (.ok tx)) :
    ∃ block head, Evm.Told node channel id block head ∧
      tx.confirmation = .ofObserved (Confirmation.blocksBetween head block) := by
  obtain ⟨c, rfl, rfl⟩ | ⟨t, rfl, rfl⟩ := cases_of_chain hchain
  · obtain ⟨located, hlocated, rfl⟩ := Evm.Client.ending_eq_ok_iff.1 h
    obtain ⟨block, head, htold, hobserved⟩ := Evm.told_of_locate hlocated
    exact ⟨block, head, htold, congrArg Confirmation.ofObserved hobserved⟩
  · obtain ⟨located, hlocated, htx⟩ := Evm.Token.ending_eq_ok_iff.1 h
    obtain ⟨block, head, htold, hobserved⟩ := Evm.told_of_locate hlocated
    obtain ⟨-, transfer, -, rfl⟩ := Evm.Token.transactionOf_eq_ok_iff.1 htx
    exact ⟨block, head, htold, congrArg Confirmation.ofObserved hobserved⟩

/-- A look-up of a transaction: how the node reacted to its calls, how high the head of the chain
    was, and what came of it. -/
structure Sighting where
  node : Talk.Node
  head : UInt64
  transaction : Transaction

/-- Whether it is an adapter's look-up of a transaction in this block. -/
structure Sighting.Of (s : Sighting) (a : Adapter) (channel : Rpc.Channel) (id : String)
    (block : UInt64) : Prop where
  told : Evm.Told s.node channel id (some block) s.head
  returned : ((a.client s.node).transaction id).ending = .returned (.ok s.transaction)

theorem Sighting.Of.confirmation {s : Sighting} {block : UInt64} (h : s.Of a channel id block)
    (hchain : a.chain? = some channel) :
    s.transaction.confirmation = .ofObserved (Confirmation.blocksBetween s.head (some block)) := by
  obtain ⟨block', head, htold, hconfirmation⟩ := told_of_chain hchain h.returned
  -- what the look-up went by is what this sighting says, for the node says one thing only
  obtain ⟨rfl, rfl⟩ := h.told.unique htold
  exact hconfirmation

/-- A transaction that is looked up is confirmed by what the replies to the look-up say: on chains
    that count blocks, from five blocks on, whose number is the node's own counter or the distance
    of the head of the chain from the transaction's block, and never wraps; on a ledger by its own
    word. And while the head of a chain does not go back, neither do the confirmations of a
    transaction in one of its blocks. -/
theorem confirmation_of_transaction :
    (∀ (a : Adapter) (node : Talk.Node) (id : String) (tx : Transaction),
      ((a.client node).transaction id).ending = .returned (.ok tx) →
        (∀ c, a = .bitcoin c → ∃ counter, c.Told node id counter ∧
          tx.confirmation =
            ⟨some 5, decide (5 ≤ counter.getD 0), some (counter.getD 0)⟩) ∧
        (∀ channel, a.chain? = some channel → ∃ block head n, Evm.Told node channel id block head ∧
          n.toNat = (block.elim 0 fun b => head.toNat - b.toNat) ∧
          tx.confirmation = ⟨some 5, decide (5 ≤ n), some n⟩) ∧
        (∀ c, a = .ripple c → ∃ validated, c.Told node id validated ∧
          tx.confirmation = ⟨none, validated, none⟩)) ∧
    ∀ (a : Adapter) (channel : Rpc.Channel) (id : String) (block : UInt64)
      (sightings : List Sighting), a.chain? = some channel →
      (∀ s ∈ sightings, s.Of a channel id block) →
      sightings.Pairwise (fun s s' => s.head ≤ s'.head) →
      sightings.Pairwise fun s s' => ∃ n n', s.transaction.confirmation.observed = some n ∧
        s'.transaction.confirmation.observed = some n' ∧ n ≤ n' ∧
        (s.transaction.confirmation.confirmed = true →
          s'.transaction.confirmation.confirmed = true) := by
  constructor
  · intro a node id tx h
    refine ⟨?_, ?_, ?_⟩
    · rintro c rfl
      exact Bitcoin.Client.told_of_transaction (Talk.result_of_returned h)
    · intro channel hchain
      obtain ⟨block, head, htold, hconfirmation⟩ := told_of_chain hchain h
      exact ⟨block, head, Confirmation.blocksBetween head block, htold,
        Confirmation.toNat_blocksBetween_elim head block, hconfirmation⟩
    · rintro c rfl
      exact Ripple.Client.told_of_transaction (Talk.result_of_returned h)
  · intro a channel id block sightings hchain hof hheads
    refine hheads.imp_of_mem fun {s s'} hs hs' hhead => ?_
    have hconfirmation := (hof s hs).confirmation hchain
    have hconfirmation' := (hof s' hs').confirmation hchain
    have hmono : Confirmation.blocksBetween s.head (some block) ≤
        Confirmation.blocksBetween s'.head (some block) := Confirmation.blocksBetween_mono hhead
    refine ⟨_, _, congrArg _ hconfirmation, congrArg _ hconfirmation', hmono, ?_⟩
    rw [hconfirmation, hconfirmation']
    exact Confirmation.confirmed_ofObserved_mono hmono

/-- A chain that is asked through one channel. -/
def sampleChain : Evm.Client where
  asset := "ETH"
  channel := {
    number := 0, protocol := .evm, limit := some (.ofSeconds 1),
    endpoint := ⟨"http", "", "", none, none, .segments [], none, none⟩ }

/-- The hash of a transaction. -/
def sampleHash : String :=
  "0x0000000000000000000000000000000000000000000000000000000000000001"

/-- The transaction, in block 100, with all its members. -/
def transactionJson (recipient : Json) (value input : String) : Json :=
  .ofMembers [("type", .text "0x0"), ("chainId", .text "0x1"), ("hash", .text sampleHash),
    ("nonce", .text "0x0"), ("gasPrice", .text "0x1"), ("gas", .text "0x5208"),
    ("from", .text "0x0000000000000000000000000000000000000001"), ("to", recipient),
    ("value", .text value), ("input", .text input), ("v", .text "0x25"), ("r", .text "0x1"),
    ("s", .text "0x1"), ("blockHash", .text sampleHash), ("blockNumber", .text "0x64"),
    ("transactionIndex", .text "0x0")]

theorem portable_transactionJson {recipient : Json} {value input : String}
    (h : Json.Portable 125 recipient) :
    Json.Portable 126 (transactionJson recipient value input) := by
  apply Json.Portable.ofMembers
  simp [Json.Portable.text, h]

/-- A node that shows the transaction, and then the head of the chain. -/
def nodeAt (number : String) : Talk.Node :=
  Evm.nodeShowing (transactionJson .null "0x0" "0x") number

theorem exists_transaction_nodeAt {number : String} {head : UInt64}
    (hhead : (Json.text number).decode Evm.decodeWord = .ok head) :
    ∃ tx, (((evm sampleChain).client (nodeAt number)).transaction sampleHash).ending =
        .returned (.ok tx) ∧
      Evm.Told (nodeAt number) sampleChain.channel sampleHash (some 100) head := by
  obtain ⟨hash, hhash⟩ : ∃ hash, Evm.FixedBytes.parse 32 sampleHash = .ok hash :=
    Result.exists_of_isOk (by decide +kernel)
  have hblock : (((transactionJson .null "0x0" "0x").decode
      (Decoder.optional Evm.AccountTransaction.decode)).toOption.join.map (·.block)) =
        some (some 100) := by decide +kernel
  obtain ⟨host, hhost, hblock⟩ := Option.map_eq_some_iff.1 hblock
  have hdecode := Result.toOption_eq_some_iff.1 (Option.join_eq_some_iff.1 hhost)
  have hin : Rpc.inTime sampleChain.channel.limit (.ofMillis 1) = true := by decide
  have hshows : Evm.Shows (nodeAt number) sampleChain.channel hash host :=
    Evm.shows_nodeShowing hin (portable_transactionJson .null) hdecode
  have hsays : Evm.Says (nodeAt number) 1 (Evm.headAsk sampleChain.channel) Evm.decodeWord head :=
    Evm.says_nodeShowing_head hin hhead
  refine ⟨_, Evm.Client.ending_eq_ok_iff.2
    ⟨_, Evm.value_locate_of_says hhash hshows hsays, rfl⟩, ?_⟩
  rw [← hblock]
  exact Evm.told_of_says hhash hshows hsays

theorem exists_sighting {number : String} {head : UInt64}
    (hhead : (Json.text number).decode Evm.decodeWord = .ok head) :
    ∃ s : Sighting, s.head = head ∧ s.Of (.evm sampleChain) sampleChain.channel sampleHash 100 := by
  obtain ⟨tx, htx, htold⟩ := exists_transaction_nodeAt hhead
  exact ⟨⟨nodeAt number, head, tx⟩, rfl, ⟨htold, htx⟩⟩

/-- Looked up at block 104 and at block 105, the transaction has no fewer confirmations the second
    time. -/
theorem confirmation_of_transaction_twice :
    ∃ s s' : Sighting, s.head = 104 ∧ s'.head = 105 ∧
      s.Of (.evm sampleChain) sampleChain.channel sampleHash 100 ∧
      s'.Of (.evm sampleChain) sampleChain.channel sampleHash 100 ∧
      ∃ n n', s.transaction.confirmation.observed = some n ∧
        s'.transaction.confirmation.observed = some n' ∧ n ≤ n' := by
  obtain ⟨s, hhead, hof⟩ := @exists_sighting "0x68" 104 (by decide +kernel)
  obtain ⟨s', hhead', hof'⟩ := @exists_sighting "0x69" 105 (by decide +kernel)
  have hall : ∀ t ∈ [s, s'], t.Of (.evm sampleChain) sampleChain.channel sampleHash 100 := by
    simp [hof, hof']
  have hheads : [s, s'].Pairwise fun t t' => t.head ≤ t'.head := by
    simp only [List.pairwise_pair, hhead, hhead']
    decide
  have hpair := confirmation_of_transaction.2 _ _ _ _ [s, s'] rfl hall hheads
  obtain ⟨n, n', hn, hn', hle, -⟩ := List.pairwise_pair.1 hpair
  exact ⟨s, s', hhead, hhead', hof, hof', n, n', hn, hn', hle⟩

end Adapter

end AssetOracle
