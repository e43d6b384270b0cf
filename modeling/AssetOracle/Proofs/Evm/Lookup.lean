import AssetOracle.Node.Adapter
import AssetOracle.Proofs.Json.RoundTrip
import AssetOracle.Proofs.Rpc.Reply
import AssetOracle.Proofs.Rpc.Talk

/-!
# Look-ups on a chain

The look-up of a transaction takes two calls, and what is located depends only on what the node says
to them (`value_locate_eq_ok_iff`). What a node says is the value of a reply; whatever value there
is, there is a reply with it (`replyValue_resultReply`).
-/

namespace AssetOracle.Evm

open Rpc (Talk Ask Reply)

variable {α : Type} {asset operation method id : String} {channel : Rpc.Channel}
  {params : List Json} {decoder : Decoder α} {node : Talk.Node} {n : Nat} {value : α}
  {hash : Hash} {host : AccountTransaction} {located : Located} {tx : Transaction} {result : Json}

/-! ## Replies -/

theorem of_replyValue {r : Reply} {value : α} (h : replyValue decoder r = .ok value) :
    ∃ result, bodyOutcome r.body = .ok result ∧ result.decode decoder = .ok value := by
  unfold replyValue at h
  by_cases hsuccess : r.isSuccess = true
  · rw [if_pos hsuccess] at h
    obtain ⟨result, hresult, hvalue⟩ := Result.bind_eq_ok_iff.1 h
    exact ⟨result, hresult, Result.mapError_eq_ok_iff.1 hvalue⟩
  · rw [if_neg hsuccess] at h
    cases h

/-- A successful reply with a result. -/
def resultReply (result : Json) : Reply :=
  ⟨200, Text.Utf8.encode
    (Json.ofMembers [("jsonrpc", .text "2.0"), ("id", .nat 0), ("result", result)]).compact⟩

theorem decodeObject_toDocument {fields : List Field} {dialect : Dialect}
    {members : List (String × Json)} :
    decodeObject fields dialect (Json.object members).toDocument =
      Decoder.record "an object" fields dialect (Json.object members).toDocument := by
  rw [Json.toDocument]
  rfl

theorem bodyOutcome_resultReply (h : Json.Portable 126 result) :
    bodyOutcome (resultReply result).body = .ok result := by
  have hportable : Json.Portable (126 + 1)
      (.ofMembers [("jsonrpc", .text "2.0"), ("id", .nat 0), ("result", result)]) := by
    apply Json.Portable.ofMembers
    simp [Json.Portable.text, Json.Portable.nat, h]
  have hbody : (Json.Source.ofBytes (resultReply result).body).decode decodeBody =
      .ok (some result, none) := by
    refine (Json.decode_ofText_compact hportable _).trans ?_
    rw [decodeBody, Decoder.map, Json.ofMembers, decodeObject_toDocument]
    refine Decoder.decode_ofMembers (by decide) (by simp)
      ⟨(some result, none, ()), rfl, ?_, rfl, trivial⟩
    exact Result.map_eq_ok_iff.2 ⟨result, Json.any_toDocument h _, rfl⟩
  rw [bodyOutcome, hbody]

theorem replyValue_resultReply (h : Json.Portable 126 result)
    (hvalue : result.decode decoder = .ok value) :
    replyValue decoder (resultReply result) = .ok value := by
  have hsuccess : (resultReply result).isSuccess = true := rfl
  rw [replyValue, if_pos hsuccess, bodyOutcome_resultReply h]
  exact Result.mapError_eq_ok_iff.2 hvalue

/-! ## Calls -/

/-- The call that looks a transaction up. -/
def lookupAsk (channel : Rpc.Channel) (hash : Hash) : Ask :=
  ⟨channel, ⟨"eth_getTransactionByHash", [fixedJson hash]⟩⟩

/-- The call that asks for the head of the chain. -/
def headAsk (channel : Rpc.Channel) : Ask := ⟨channel, ⟨"eth_blockNumber", []⟩⟩

/-- Whether a reply with this value comes in time to the call number `n`. -/
def Says (node : Talk.Node) (n : Nat) (ask : Ask) (decoder : Decoder α) (value : α) : Prop :=
  ∃ r after, (node n ask).answer ask.channel.limit = some (.reply r, after) ∧
    replyValue decoder r = .ok value

theorem Says.exists_reply {ask : Ask} (h : Says node n ask decoder value) :
    ∃ after r, node n ask = .reply after r ∧ replyValue decoder r = .ok value := by
  obtain ⟨r, after, hanswer, hvalue⟩ := h
  exact ⟨after, r, Talk.eq_reply_of_answer hanswer, hvalue⟩

theorem Says.unique {value' : α} {ask : Ask} (h : Says node n ask decoder value)
    (h' : Says node n ask decoder value') : value = value' := by
  obtain ⟨r, after, hanswer, hvalue⟩ := h
  obtain ⟨r', after', hanswer', hvalue'⟩ := h'
  rw [hanswer] at hanswer'
  cases hanswer'
  rw [hvalue] at hvalue'
  exact Except.ok.inj hvalue'

theorem interpret_eq_ok_iff {answer : Rpc.Answer} :
    interpret asset operation channel decoder answer = .ok value ↔
      ∃ r, answer = .reply r ∧ replyValue decoder r = .ok value := by
  cases answer with
  | reply r => simp [interpret, Result.mapError_eq_ok_iff]
  | broken => simp [interpret]
  | late => simp [interpret]

theorem run_request :
    ((request asset operation channel method params decoder).run node n).value =
        ((node n ⟨channel, ⟨method, params⟩⟩).answer channel.limit).map (fun given =>
          interpret asset operation channel decoder given.1) ∧
      ((request asset operation channel method params decoder).run node n).calls =
        [(⟨channel, ⟨method, params⟩⟩, node n ⟨channel, ⟨method, params⟩⟩)] :=
  Talk.run_once _

theorem value_request_eq_ok_iff :
    ((request asset operation channel method params decoder).run node n).value =
      some (.ok value) ↔ Says node n ⟨channel, ⟨method, params⟩⟩ decoder value := by
  rw [run_request.1, Option.map_eq_some_iff]
  constructor
  · rintro ⟨⟨answer, after⟩, hanswer, hvalue⟩
    obtain ⟨r, rfl, hr⟩ := interpret_eq_ok_iff.1 hvalue
    exact ⟨r, after, hanswer, hr⟩
  · rintro ⟨r, after, hanswer, hr⟩
    exact ⟨(.reply r, after), hanswer, interpret_eq_ok_iff.2 ⟨r, rfl, hr⟩⟩

/-! ## Transactions -/

/-- Whether a node shows a transaction of a chain when it is asked for a hash. -/
def Shows (node : Talk.Node) (channel : Rpc.Channel) (hash : Hash) (host : AccountTransaction) :
    Prop :=
  Says node 0 (lookupAsk channel hash) (Decoder.optional AccountTransaction.decode) (some host)

/-- A transaction that the node shows is located once the head of the chain is known. -/
theorem value_locate_of_shows (hhash : FixedBytes.parse 32 id = .ok hash)
    (h : Shows node channel hash host) :
    ((locate asset channel id).run node 0).value =
      ((request asset transactionOperation channel "eth_blockNumber" [] decodeWord).run
        node 1).value.map (·.map fun head =>
          ⟨hash, host, Confirmation.blocksBetween head host.block⟩) := by
  unfold locate
  rw [hhash]
  simp only
  rw [Talk.run_bind.1, value_request_eq_ok_iff.2 h, run_request.2]
  refine (Talk.run_bind_pure ?_).1
  intro reply
  cases reply with
  | error e => rfl
  | ok head => rfl

theorem shows_of_locate
    (h : ((locate asset channel id).run node 0).value = some (.ok located)) :
    FixedBytes.parse 32 id = .ok located.hash ∧
      Shows node channel located.hash located.transaction := by
  unfold locate at h
  cases hhash : FixedBytes.parse 32 id with
  | error e =>
    simp only [hhash] at h
    cases h
  | ok hash =>
    simp only [hhash] at h
    obtain ⟨found, hfound, h⟩ := (Talk.value_bind_eq_ok_iff (by intro e; rfl)).1 h
    cases found with
    | none => cases h
    | some t =>
      obtain ⟨head, -, h⟩ := (Talk.value_bind_eq_ok_iff (by intro e; rfl)).1 h
      cases h
      exact ⟨rfl, value_request_eq_ok_iff.1 hfound⟩

/-- What is located depends only on what the node says, and not on the asset it is asked for. -/
theorem value_locate_eq_ok_iff :
    ((locate asset channel id).run node 0).value = some (.ok located) ↔
      FixedBytes.parse 32 id = .ok located.hash ∧
        Shows node channel located.hash located.transaction ∧
        ∃ head, Says node 1 (headAsk channel) decodeWord head ∧
          located.observed = Confirmation.blocksBetween head located.transaction.block := by
  constructor
  · intro h
    obtain ⟨hhash, hshows⟩ := shows_of_locate h
    rw [value_locate_of_shows hhash hshows] at h
    obtain ⟨reply, hreply, hlocated⟩ := Option.map_eq_some_iff.1 h
    obtain ⟨head, rfl, hhead⟩ := Result.map_eq_ok_iff.1 hlocated
    refine ⟨hhash, hshows, head, value_request_eq_ok_iff.1 hreply, ?_⟩
    rw [← hhead]
  · rintro ⟨hhash, hshows, head, hhead, hobserved⟩
    rw [value_locate_of_shows hhash hshows, value_request_eq_ok_iff.2 hhead, Option.map_some,
      Except.map, ← hobserved]

theorem value_locate_of_says {head : UInt64} (hhash : FixedBytes.parse 32 id = .ok hash)
    (hshows : Shows node channel hash host) (hhead : Says node 1 (headAsk channel) decodeWord head) :
    ((locate asset channel id).run node 0).value =
      some (.ok ⟨hash, host, Confirmation.blocksBetween head host.block⟩) :=
  value_locate_eq_ok_iff.2 ⟨hhash, hshows, head, hhead, rfl⟩

theorem Client.ending_eq_ok_iff {c : Client} :
    (((Adapter.evm c).client node).transaction id).ending = .returned (.ok tx) ↔
      ∃ located, ((locate c.asset c.channel id).run node 0).value = some (.ok located) ∧
        Client.transactionOf located = tx := by
  have hvalue : ((c.transaction id).run node 0).value =
      ((locate c.asset c.channel id).run node 0).value.map (·.map transactionOf) :=
    (Talk.run_map _).1
  refine Talk.Run.ending_job_iff.trans ?_
  rw [Adapter.transaction, hvalue, Option.map_eq_some_iff]
  constructor
  · rintro ⟨reply, hreply, hmap⟩
    obtain ⟨located, rfl, htx⟩ := Result.map_eq_ok_iff.1 hmap
    exact ⟨located, hreply, htx⟩
  · rintro ⟨located, hreply, htx⟩
    exact ⟨_, hreply, Result.map_eq_ok_iff.2 ⟨located, rfl, htx⟩⟩

theorem Token.value_transaction {t : Token} : ((t.transaction id).run node 0).value =
    ((locate t.asset t.channel id).run node 0).value.map (·.bind (t.transactionOf id)) :=
  (Talk.run_map _).1

theorem Token.ending_eq_ok_iff {t : Token} :
    (((Adapter.token t).client node).transaction id).ending = .returned (.ok tx) ↔
      ∃ located, ((locate t.asset t.channel id).run node 0).value = some (.ok located) ∧
        t.transactionOf id located = .ok tx := by
  refine Talk.Run.ending_job_iff.trans ?_
  rw [Adapter.transaction, value_transaction, Option.map_eq_some_iff]
  constructor
  · rintro ⟨reply, hreply, hbind⟩
    obtain ⟨located, rfl, htx⟩ := Result.bind_eq_ok_iff.1 hbind
    exact ⟨located, hreply, htx⟩
  · rintro ⟨located, hreply, htx⟩
    exact ⟨_, hreply, htx⟩

/-- A transaction of the chain is one of a token if it calls the token's contract for a movement. -/
theorem Token.transactionOf_eq_ok_iff {t : Token} {located : Located} :
    t.transactionOf id located = .ok tx ↔ located.transaction.recipient = some t.contract ∧
      ∃ transfer, Transfer.ofCall? located.transaction.signer located.transaction.input =
          some transfer ∧
        tx = ⟨located.hash.render, Address.render transfer.sender,
          Address.render transfer.recipient, toString transfer.amount,
          .ofObserved located.observed⟩ := by
  unfold transactionOf
  by_cases hrecipient : located.transaction.recipient = some t.contract
  · rw [if_neg (not_not_intro hrecipient)]
    cases Transfer.ofCall? located.transaction.signer located.transaction.input with
    | none => simp
    | some transfer => simp [hrecipient, eq_comm]
  · rw [if_pos hrecipient]
    simp [hrecipient]

/-! ## A chain with a transaction -/

/-- A node that shows a transaction, and then the head of the chain. -/
def nodeShowing (transaction : Json) (head : String) : Talk.Node := fun n _ =>
  .reply (.ofMillis 1) (resultReply (if n = 0 then transaction else .text head))

theorem says_resultReply {ask : Ask} (hin : Rpc.inTime ask.channel.limit (.ofMillis 1) = true)
    (hnode : node n ask = .reply (.ofMillis 1) (resultReply result))
    (h : Json.Portable 126 result) (hvalue : result.decode decoder = .ok value) :
    Says node n ask decoder value := by
  refine ⟨resultReply result, .ofMillis 1, ?_, replyValue_resultReply h hvalue⟩
  rw [hnode]
  exact Talk.answer_reply hin

theorem shows_nodeShowing {head : String}
    (hin : Rpc.inTime channel.limit (.ofMillis 1) = true) (hportable : Json.Portable 126 result)
    (hhost : result.decode (Decoder.optional AccountTransaction.decode) = .ok (some host)) :
    Shows (nodeShowing result head) channel hash host :=
  says_resultReply hin rfl hportable hhost

theorem says_nodeShowing_head {text : String} {head : UInt64}
    (hin : Rpc.inTime channel.limit (.ofMillis 1) = true)
    (hhead : (Json.text text).decode decodeWord = .ok head) :
    Says (nodeShowing result text) 1 (headAsk channel) decodeWord head :=
  says_resultReply hin rfl (.text text) hhead

end AssetOracle.Evm
