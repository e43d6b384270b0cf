import AssetOracle.Proofs.Node.Attribution
import AssetOracle.Proofs.Node.Channels
import AssetOracle.Proofs.Node.Confirmation

/-!
# Movements of tokens as transactions

The look-up of a token's transaction is the look-up of a transaction of its chain, which has to call
the token's contract for a movement. Id and confirmation are those of the chain's transaction; from
whom, to whom and how much is said by the call alone (`Token.transaction_of_token`).
-/

namespace AssetOracle.Evm

open Rpc (Talk Ask)

variable {α : Type} {asset operation method id : String} {channel : Rpc.Channel}
  {params : List Json} {decoder : Decoder α} {node : Talk.Node} {n : Nat} {value : α}
  {hash : Hash} {host : AccountTransaction} {located : Located} {tx : Transaction}

namespace Token

variable {t : Token}

/-- Whether a transaction of the chain does not move these tokens: it makes a contract, calls
    another one, or calls this one for something else. -/
def Foreign (t : Token) (host : AccountTransaction) : Prop :=
  host.recipient = none ∨ (∃ other, host.recipient = some other ∧ other ≠ t.contract) ∨
    Transfer.ofCall? host.signer host.input = none

theorem transactionOf_of_foreign (h : t.Foreign located.transaction) :
    ∃ cause, t.transactionOf id located = .error (.failed t.asset transactionOperation cause) := by
  unfold transactionOf
  by_cases hrecipient : located.transaction.recipient = some t.contract
  · rw [if_neg (not_not_intro hrecipient)]
    rcases h with hnone | ⟨other, hother, hne⟩ | hcall
    · rw [hrecipient] at hnone
      cases hnone
    · rw [hrecipient] at hother
      exact absurd (Option.some.inj hother).symm hne
    · rw [hcall]
      exact ⟨_, rfl⟩
  · rw [if_pos hrecipient]
    exact ⟨_, rfl⟩

theorem error_of_foreign {result : NodeResult Transaction}
    (hhash : FixedBytes.parse 32 id = .ok hash) (hshows : Shows node t.channel hash host)
    (h : t.Foreign host)
    (hend : (((Adapter.token t).client node).transaction id).ending = .returned result) :
    ∃ cause, result = .error (.failed t.asset transactionOperation cause) := by
  have hvalue := Talk.Run.ending_job_iff.1 hend
  rw [Adapter.transaction, value_transaction] at hvalue
  obtain ⟨reply, hreply, rfl⟩ := Option.map_eq_some_iff.1 hvalue
  cases reply with
  | error e =>
    have hcause := (locate_failsOnly_of_hash hhash).of_returned (Talk.Run.ending_job_iff.2 hreply)
    obtain ⟨cause, rfl⟩ := hcause e rfl
    exact ⟨cause, rfl⟩
  | ok located =>
    obtain ⟨hhash', hshows'⟩ := shows_of_locate hreply
    rw [hhash] at hhash'
    cases hhash'
    have hhost : host = located.transaction := Option.some.inj (hshows.unique hshows')
    exact transactionOf_of_foreign (hhost ▸ h)

/-- What the chain's transaction itself is worth is not looked at. -/
theorem transactionOf_congr {amount : Nat} {observed : UInt64} :
    t.transactionOf id ⟨hash, { host with value := amount }, observed⟩ =
      t.transactionOf id ⟨hash, host, observed⟩ := rfl

theorem ending_congr {amount : Nat} {node' : Talk.Node} (hhash : FixedBytes.parse 32 id = .ok hash)
    (h : Shows node t.channel hash host)
    (h' : Shows node' t.channel hash { host with value := amount })
    (hnode : ∀ n, node' (n + 1) = node (n + 1)) :
    (((Adapter.token t).client node').transaction id).ending =
      (((Adapter.token t).client node).transaction id).ending := by
  have hrest : ∀ n, 1 ≤ n → node' n = node n := by
    intro n hn
    obtain ⟨m, rfl⟩ := Nat.exists_eq_add_of_le' hn
    exact hnode m
  apply Talk.Run.ending_job_congr
  rw [Adapter.transaction, value_transaction, value_transaction, value_locate_of_shows hhash h,
    value_locate_of_shows hhash h', Talk.run_congr hrest, Option.map_map, Option.map_map]
  congr 1
  funext reply
  cases reply with
  | error e => rfl
  | ok head => exact transactionOf_congr

/-- The look-up of a token's transaction, against that of the same hash for the asset of the chain
    itself. It ends with a transaction exactly if the other one does, and if the transaction that
    the node shows calls the token's contract for a movement; it takes the id and the confirmation
    from the other one and everything else from the movement. A transaction that makes a contract,
    calls another one or calls this one for something else is an error in the token's name. And the
    value that the chain's transaction has itself makes no difference. -/
theorem transaction_of_token (t : Token) (asset : String) (node : Talk.Node) (id : String) :
    (∀ tx, (((Adapter.token t).client node).transaction id).ending = .returned (.ok tx) ↔
        ∃ hash host hostTx transfer, FixedBytes.parse 32 id = .ok hash ∧
          Shows node t.channel hash host ∧ host.recipient = some t.contract ∧
          Transfer.ofCall? host.signer host.input = some transfer ∧
          (((Adapter.evm ⟨asset, t.channel⟩).client node).transaction id).ending =
            .returned (.ok hostTx) ∧
          tx = {
            id := hostTx.id
            sender := Address.render transfer.sender
            recipient := Address.render transfer.recipient
            value := toString transfer.amount
            confirmation := hostTx.confirmation }) ∧
      (∀ hash host, FixedBytes.parse 32 id = .ok hash → Shows node t.channel hash host →
        t.Foreign host →
        ∀ result, (((Adapter.token t).client node).transaction id).ending = .returned result →
          ∃ cause, result = .error (.failed t.asset transactionOperation cause)) ∧
      (t.channel.limit ≠ none →
        ∃ result, (((Adapter.token t).client node).transaction id).ending = .returned result) ∧
      ∀ hash host amount node', FixedBytes.parse 32 id = .ok hash →
        Shows node t.channel hash host →
        Shows node' t.channel hash { host with value := amount } →
        (∀ n, node' (n + 1) = node (n + 1)) →
          (((Adapter.token t).client node').transaction id).ending =
            (((Adapter.token t).client node).transaction id).ending := by
  refine ⟨?_, ?_, ?_, ?_⟩
  · intro tx
    rw [ending_eq_ok_iff]
    constructor
    · rintro ⟨located, hlocated, htx⟩
      obtain ⟨hrecipient, transfer, htransfer, rfl⟩ := transactionOf_eq_ok_iff.1 htx
      obtain ⟨hhash, hshows⟩ := shows_of_locate hlocated
      have hchain := Client.ending_eq_ok_iff (c := ⟨asset, t.channel⟩)
        |>.2 ⟨located, value_locate_eq_ok_iff.2 (value_locate_eq_ok_iff.1 hlocated), rfl⟩
      exact ⟨_, _, _, transfer, hhash, hshows, hrecipient, htransfer, hchain, rfl⟩
    · rintro ⟨hash, host, hostTx, transfer, hhash, hshows, hrecipient, htransfer, hchain, rfl⟩
      obtain ⟨located, hlocated, rfl⟩ := Client.ending_eq_ok_iff.1 hchain
      obtain ⟨hhash', hshows'⟩ := shows_of_locate hlocated
      rw [hhash] at hhash'
      cases hhash'
      -- The first answer shows one transaction, so the other look-up has located this one.
      have hhost : host = located.transaction := Option.some.inj (hshows.unique hshows')
      refine ⟨located, value_locate_eq_ok_iff.2 (value_locate_eq_ok_iff.1 hlocated), ?_⟩
      rw [hhost] at hrecipient htransfer
      exact transactionOf_eq_ok_iff.2 ⟨hrecipient, transfer, htransfer, rfl⟩
  · intro hash host hhash hshows hforeign result hend
    exact error_of_foreign hhash hshows hforeign hend
  · intro hlimit
    exact Adapter.transaction_ends node id hlimit
  · intro hash host amount node' hhash hshows hshows' hnode
    exact ending_congr hhash hshows hshows' hnode

/-- A token on a chain. -/
def sampleToken : Token where
  asset := "USDT"
  channel := Adapter.sampleChain.channel
  contract := FixedBytes.ofList 20 [0xDA]

/-- A transaction that calls the token's contract to move seven units. -/
def callJson : Json :=
  Adapter.transactionJson (.text "0xda00000000000000000000000000000000000000") "0x5"
    ("0xa9059cbb" ++ "0000000000000000000000000000000000000000000000000000000000000002" ++
      "0000000000000000000000000000000000000000000000000000000000000007")

/-- A node that shows this transaction, and then the head of the chain. -/
def callNode : Talk.Node := nodeShowing callJson "0x64"

theorem exists_transaction_callNode :
    ∃ tx, (((Adapter.token sampleToken).client callNode).transaction Adapter.sampleHash).ending =
      .returned (.ok tx) := by
  obtain ⟨hash, hhash⟩ : ∃ hash, FixedBytes.parse 32 Adapter.sampleHash = .ok hash :=
    Result.exists_of_isOk (by decide +kernel)
  have hcall : ((callJson.decode (Decoder.optional AccountTransaction.decode)).toOption.join.map
      fun host => (host.recipient, (Transfer.ofCall? host.signer host.input).isSome)) =
        some (some sampleToken.contract, true) := by decide +kernel
  obtain ⟨host, hhost, hcall⟩ := Option.map_eq_some_iff.1 hcall
  have hdecode := Result.toOption_eq_some_iff.1 (Option.join_eq_some_iff.1 hhost)
  obtain ⟨hrecipient, hsome⟩ := Prod.mk.inj hcall
  obtain ⟨transfer, htransfer⟩ := Option.isSome_iff_exists.1 hsome
  have hin : Rpc.inTime sampleToken.channel.limit (.ofMillis 1) = true := by decide
  have hshows : Shows callNode sampleToken.channel hash host :=
    shows_nodeShowing hin (Adapter.portable_transactionJson (.text _)) hdecode
  have hhead : (Json.text "0x64").decode decodeWord = .ok 100 := by decide +kernel
  exact ⟨_, ending_eq_ok_iff.2
    ⟨_, value_locate_of_says hhash hshows (says_nodeShowing_head hin hhead),
      transactionOf_eq_ok_iff.2 ⟨hrecipient, transfer, htransfer, rfl⟩⟩⟩

theorem transaction_of_token_call :
    ∃ tx hash host transfer,
      (((Adapter.token sampleToken).client callNode).transaction Adapter.sampleHash).ending =
        .returned (.ok tx) ∧
      Shows callNode sampleToken.channel hash host ∧ host.recipient = some sampleToken.contract ∧
      Transfer.ofCall? host.signer host.input = some transfer ∧
      tx.value = toString transfer.amount := by
  obtain ⟨tx, htx⟩ := exists_transaction_callNode
  obtain ⟨hash, host, hostTx, transfer, -, hshows, hrecipient, htransfer, -, rfl⟩ :=
    ((transaction_of_token sampleToken "ETH" callNode Adapter.sampleHash).1 tx).1 htx
  exact ⟨_, hash, host, transfer, htx, hshows, hrecipient, htransfer, rfl⟩

end Token

end AssetOracle.Evm
