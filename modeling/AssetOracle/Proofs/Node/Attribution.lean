import AssetOracle.Node.Adapter
import AssetOracle.Proofs.Policy.Converge
import AssetOracle.Proofs.Result
import AssetOracle.Proofs.Rpc.Talk

/-!
# Whose errors the errors of adapters are

An adapter makes its errors in the name of its own asset and of the operation that it was asked
for, also where its channel belongs to other assets as well, and whatever its node does
(`info_failsOnly`, `balance_failsOnly`, `transaction_failsOnly`, `error_importAddress`). Each
combinator of talks and results keeps what its parts may fail with.
-/

namespace AssetOracle

open Rpc (Talk)

/-- Whether an error is one of an operation for an asset. -/
def NodeError.ComesFrom (asset operation : String) (e : NodeError) : Prop :=
  ∃ cause, e = .failed asset operation cause

/-- Whether an error is one of an operation for an asset, or says that the input was refused. -/
def NodeError.ComesFromOrRefuses (asset operation : String) (e : NodeError) : Prop :=
  e.ComesFrom asset operation ∨ ∃ message, e = .invalidInput message

/-- Whether a result is a value or else such an error. -/
def FailsOnly {α : Type} (P : NodeError → Prop) (x : NodeResult α) : Prop :=
  ∀ e, x = .error e → P e

section FailsOnly

variable {α β ε : Type} {P Q : NodeError → Prop} {x : NodeResult α}

theorem failsOnly_ok {value : α} : FailsOnly P (.ok value) := by
  intro e he
  cases he

theorem failsOnly_error {e : NodeError} (h : P e) : FailsOnly (α := α) P (.error e) := by
  intro e' he
  cases he
  exact h

theorem FailsOnly.map {f : α → β} (h : FailsOnly P x) : FailsOnly P (x.map f) := by
  intro e he
  exact h e (Result.map_eq_error_iff.1 he)

theorem FailsOnly.bind {f : α → NodeResult β} (h : FailsOnly P x)
    (hf : ∀ value, FailsOnly P (f value)) : FailsOnly P (x.bind f) := by
  intro e he
  rcases Result.bind_eq_error_iff.1 he with he | ⟨value, -, he⟩
  · exact h e he
  · exact hf value e he

theorem failsOnly_mapError {k : ε → NodeError} {y : Except ε α} (h : ∀ e, P (k e)) :
    FailsOnly P (y.mapError k) := by
  intro e he
  obtain ⟨e', -, rfl⟩ := Result.mapError_eq_error_iff.1 he
  exact h e'

theorem FailsOnly.mono (hPQ : ∀ e, P e → Q e) (h : FailsOnly P x) : FailsOnly Q x := by
  intro e he
  exact hPQ e (h e he)

/-- A talk that passes errors on fails as its two parts do. -/
theorem always_failsOnly_bind {t : Talk (NodeResult α)} {f : NodeResult α → Talk (NodeResult β)}
    (hf : ∀ e, f (.error e) = pure (.error e)) (h : t.Always (FailsOnly P))
    (hok : ∀ value, (f (.ok value)).Always (FailsOnly P)) : (t >>= f).Always (FailsOnly P) := by
  apply h.bind
  intro reply hreply
  cases reply with
  | error e =>
    rw [hf]
    exact Talk.Always.pure (failsOnly_error (hreply e rfl))
  | ok value => exact hok value

end FailsOnly

/-! ## Output-based nodes -/

namespace Bitcoin.Client

variable {α : Type} {c : Client} {operation method id address : String} {params : List Json}
  {decoder : Decoder α} {input : Input}

theorem failed_comesFrom {cause : Cause} : (c.failed operation cause).ComesFrom c.asset operation :=
  ⟨cause, rfl⟩

theorem call_failsOnly : (c.call operation method params decoder).Always
    (FailsOnly (NodeError.ComesFrom c.asset operation)) := by
  unfold call
  apply Talk.Always.bind Talk.always_true
  intro reply _
  apply Talk.Always.pure
  apply failsOnly_mapError
  intro failure
  exact failed_comesFrom

theorem info_failsOnly :
    c.info.Always (FailsOnly (NodeError.ComesFrom c.asset infoOperation)) := by
  unfold info
  apply Talk.Always.bind call_failsOnly
  intro reply hreply
  exact Talk.Always.pure hreply.map

theorem balance_failsOnly :
    (c.balance address).Always (FailsOnly (NodeError.ComesFrom c.asset balanceOperation)) := by
  unfold balance
  apply Talk.Always.bind call_failsOnly
  intro reply hreply
  exact Talk.Always.pure hreply.map

theorem sender_failsOnly :
    (c.sender input).Always (FailsOnly (NodeError.ComesFrom c.asset transactionOperation)) := by
  unfold sender
  split
  · refine always_failsOnly_bind (fun _ => rfl) call_failsOnly ?_
    intro funding
    simp only
    split
    · exact Talk.Always.pure failsOnly_ok
    · exact Talk.Always.pure (failsOnly_error failed_comesFrom)
  · exact Talk.Always.pure failsOnly_ok

theorem transaction_failsOnly :
    (c.transaction id).Always (FailsOnly (NodeError.ComesFrom c.asset transactionOperation)) := by
  unfold transaction
  refine always_failsOnly_bind (fun _ => rfl) call_failsOnly ?_
  intro t
  simp only
  cases t.inputs.head? with
  | none => exact Talk.Always.pure (failsOnly_error failed_comesFrom)
  | some input =>
    apply Talk.Always.bind sender_failsOnly
    intro sender hsender
    exact Talk.Always.pure hsender.map

end Bitcoin.Client

/-! ## Ledger nodes -/

namespace Ripple.Client

variable {α : Type} {c : Client} {operation method id address what drops : String} {params : Json}
  {decoder : Decoder α}

theorem failed_comesFrom {cause : Cause} : (c.failed operation cause).ComesFrom c.asset operation :=
  ⟨cause, rfl⟩

theorem request_failsOnly : (c.request operation method params decoder).Always
    (FailsOnly (NodeError.ComesFrom c.asset operation)) := by
  unfold request
  apply Talk.Always.bind Talk.always_true
  intro reply _
  apply Talk.Always.pure
  unfold interpret
  cases reply with
  | error failure => exact failsOnly_error failed_comesFrom
  | ok result =>
    simp only
    cases reportedError result with
    | some message => exact failsOnly_error failed_comesFrom
    | none =>
      apply failsOnly_mapError
      intro e
      exact failed_comesFrom

theorem amountOfDrops_failsOnly :
    FailsOnly (NodeError.ComesFrom c.asset operation) (c.amountOfDrops operation what drops) := by
  unfold amountOfDrops
  cases drops? drops with
  | some n => exact failsOnly_ok
  | none => exact failsOnly_error failed_comesFrom

theorem info_failsOnly :
    c.info.Always (FailsOnly (NodeError.ComesFrom c.asset infoOperation)) := by
  unfold info
  apply Talk.Always.bind request_failsOnly
  intro reply hreply
  apply Talk.Always.pure
  apply hreply.bind
  intro found
  unfold chainState
  cases found.validated.or found.closed with
  | some ledger => exact failsOnly_ok
  | none => exact failsOnly_error failed_comesFrom

theorem balance_failsOnly :
    (c.balance address).Always (FailsOnly (NodeError.ComesFrom c.asset balanceOperation)) := by
  unfold balance
  apply Talk.Always.bind request_failsOnly
  intro reply hreply
  apply Talk.Always.pure
  apply FailsOnly.map
  apply hreply.bind
  intro drops
  exact amountOfDrops_failsOnly

theorem transaction_failsOnly :
    (c.transaction id).Always (FailsOnly (NodeError.ComesFrom c.asset transactionOperation)) := by
  unfold transaction
  apply Talk.Always.bind request_failsOnly
  intro reply hreply
  apply Talk.Always.pure
  apply hreply.bind
  intro payment
  apply FailsOnly.map
  unfold paymentValue
  cases payment.amount with
  | none => exact failsOnly_ok
  | some amount =>
    cases amount with
    | drops drops => exact amountOfDrops_failsOnly
    | issued currency issuer value => exact failsOnly_ok

end Ripple.Client

/-! ## Account-based nodes -/

namespace Evm

variable {α : Type} {asset operation method id address : String} {channel : Rpc.Channel}
  {params : List Json} {decoder : Decoder α} {located : Located} {raw : List UInt8}

theorem request_failsOnly : (request asset operation channel method params decoder).Always
    (FailsOnly (NodeError.ComesFrom asset operation)) := by
  unfold request
  apply Talk.Always.bind Talk.always_true
  intro answer _
  apply Talk.Always.pure
  unfold interpret
  cases answer with
  | reply r =>
    apply failsOnly_mapError
    intro failure
    exact ⟨_, rfl⟩
  | broken => exact failsOnly_error ⟨_, rfl⟩
  | late => exact failsOnly_error ⟨_, rfl⟩

theorem chainState_failsOnly :
    (chainState asset channel).Always (FailsOnly (NodeError.ComesFrom asset infoOperation)) := by
  unfold chainState
  refine always_failsOnly_bind (fun _ => rfl) request_failsOnly ?_
  intro chain
  refine always_failsOnly_bind (fun _ => rfl) request_failsOnly ?_
  intro block
  cases block with
  | none => exact Talk.Always.pure (failsOnly_error ⟨_, rfl⟩)
  | some block => exact Talk.Always.pure failsOnly_ok

/-- The look-up of a text that is a hash fails in the name of the asset. -/
theorem locate_failsOnly_of_hash {hash : Hash} (h : FixedBytes.parse 32 id = .ok hash) :
    (locate asset channel id).Always
      (FailsOnly (NodeError.ComesFrom asset transactionOperation)) := by
  unfold locate
  rw [h]
  refine always_failsOnly_bind (fun _ => rfl) request_failsOnly ?_
  intro found
  cases found with
  | none => exact Talk.Always.pure (failsOnly_error ⟨_, rfl⟩)
  | some transaction =>
    refine always_failsOnly_bind (fun _ => rfl) request_failsOnly ?_
    intro head
    exact Talk.Always.pure failsOnly_ok

theorem locate_failsOnly : (locate asset channel id).Always
    (FailsOnly (NodeError.ComesFromOrRefuses asset transactionOperation)) := by
  cases hparse : FixedBytes.parse 32 id with
  | error e =>
    unfold locate
    rw [hparse]
    exact Talk.Always.pure (failsOnly_error (.inr ⟨_, rfl⟩))
  | ok hash => exact (locate_failsOnly_of_hash hparse).mono fun _ h => h.mono fun _ => .inl

theorem parseAddress_failsOnly : FailsOnly (NodeError.ComesFromOrRefuses asset operation)
    (parseAddress address) := by
  apply failsOnly_mapError
  intro e
  exact .inr ⟨_, rfl⟩

/-- The balance of a text that is an address fails in the name of the asset. -/
theorem Client.balance_failsOnly_of_address {c : Client} {account : Address}
    (h : parseAddress address = .ok account) : (c.balance address).Always
      (FailsOnly (NodeError.ComesFrom c.asset balanceOperation)) := by
  unfold balance
  rw [h]
  apply Talk.Always.bind request_failsOnly
  intro reply hreply
  exact Talk.Always.pure hreply.map

theorem Client.balance_failsOnly {c : Client} : (c.balance address).Always
    (FailsOnly (NodeError.ComesFromOrRefuses c.asset balanceOperation)) := by
  have hparse : FailsOnly (NodeError.ComesFromOrRefuses c.asset balanceOperation)
      (parseAddress address) := parseAddress_failsOnly
  cases hgiven : parseAddress address with
  | error e =>
    unfold balance
    rw [hgiven]
    exact Talk.Always.pure (failsOnly_error (hparse e hgiven))
  | ok account => exact (balance_failsOnly_of_address hgiven).mono fun _ h => h.mono fun _ => .inl

theorem Client.transaction_failsOnly_of_hash {c : Client} {hash : Hash}
    (h : FixedBytes.parse 32 id = .ok hash) : (c.transaction id).Always
      (FailsOnly (NodeError.ComesFrom c.asset transactionOperation)) := by
  unfold transaction
  apply Talk.Always.bind (locate_failsOnly_of_hash h)
  intro located hlocated
  exact Talk.Always.pure hlocated.map

theorem Client.transaction_failsOnly {c : Client} : (c.transaction id).Always
    (FailsOnly (NodeError.ComesFromOrRefuses c.asset transactionOperation)) := by
  unfold transaction
  apply Talk.Always.bind locate_failsOnly
  intro located hlocated
  exact Talk.Always.pure hlocated.map

theorem Token.balance_failsOnly_of_address {t : Token} {account : Address}
    (h : parseAddress address = .ok account) : (t.balance address).Always
      (FailsOnly (NodeError.ComesFrom t.asset balanceOperation)) := by
  unfold balance
  rw [h]
  apply Talk.Always.bind request_failsOnly
  intro reply hreply
  apply Talk.Always.pure
  apply hreply.bind
  intro raw
  unfold balanceOf
  by_cases hlength : raw.length = 32
  · rw [if_pos hlength]
    exact failsOnly_ok
  · rw [if_neg hlength]
    exact failsOnly_error ⟨_, rfl⟩

theorem Token.balance_failsOnly {t : Token} : (t.balance address).Always
    (FailsOnly (NodeError.ComesFromOrRefuses t.asset balanceOperation)) := by
  have hparse : FailsOnly (NodeError.ComesFromOrRefuses t.asset balanceOperation)
      (parseAddress address) := parseAddress_failsOnly
  cases hgiven : parseAddress address with
  | error e =>
    unfold balance
    rw [hgiven]
    exact Talk.Always.pure (failsOnly_error (hparse e hgiven))
  | ok account => exact (balance_failsOnly_of_address hgiven).mono fun _ h => h.mono fun _ => .inl

theorem Token.transactionOf_failsOnly {t : Token} :
    FailsOnly (NodeError.ComesFrom t.asset transactionOperation) (t.transactionOf id located) := by
  unfold transactionOf
  by_cases hrecipient : located.transaction.recipient ≠ some t.contract
  · rw [if_pos hrecipient]
    exact failsOnly_error ⟨_, rfl⟩
  · rw [if_neg hrecipient]
    cases Transfer.ofCall? located.transaction.signer located.transaction.input with
    | none => exact failsOnly_error ⟨_, rfl⟩
    | some transfer => exact failsOnly_ok

theorem Token.transaction_failsOnly_of_hash {t : Token} {hash : Hash}
    (h : FixedBytes.parse 32 id = .ok hash) : (t.transaction id).Always
      (FailsOnly (NodeError.ComesFrom t.asset transactionOperation)) := by
  unfold transaction
  apply Talk.Always.bind (locate_failsOnly_of_hash h)
  intro located hlocated
  exact Talk.Always.pure (hlocated.bind fun _ => transactionOf_failsOnly)

theorem Token.transaction_failsOnly {t : Token} : (t.transaction id).Always
    (FailsOnly (NodeError.ComesFromOrRefuses t.asset transactionOperation)) := by
  unfold transaction
  apply Talk.Always.bind locate_failsOnly
  intro located hlocated
  exact Talk.Always.pure (hlocated.bind fun _ => transactionOf_failsOnly.mono fun _ => .inl)

end Evm

/-! ## Imports -/

namespace Bitcoin.Client

variable {c : Client} {node : Talk.Node} {address : String} {e : NodeError} {n : Nat}

theorem importCall_failsOnly :
    (c.importCall address).Always (FailsOnly (NodeError.ComesFrom c.asset importOperation)) := by
  unfold importCall
  apply Talk.Always.bind Talk.always_true
  intro reply _
  apply Talk.Always.pure
  cases reply with
  | ok value => exact failsOnly_ok
  | error failure =>
    cases failure with
    | refused code message =>
      unfold importState
      by_cases hbusy : code = walletBusy
      · simp only [hbusy, if_true]
        exact failsOnly_ok
      · simp only [hbusy, if_false]
        exact failsOnly_error failed_comesFrom
    | transport url => exact failsOnly_error failed_comesFrom
    | status status body => exact failsOnly_error failed_comesFrom
    | undecodable stage error => exact failsOnly_error failed_comesFrom

theorem error_importOnce (hname : c.importing.name = importOperation)
    (h : (c.importOnce node address n).result = .error e) :
    e.ComesFrom c.asset importOperation ∨ e = .timeout importOperation c.importing.limit := by
  unfold importOnce SlowOperation.run at h
  cases hin : ((c.importCall address).run node n).job.endsWithin c.importing.limit with
  | none =>
    simp only [hin, hname] at h
    exact .inr (Except.error.inj h).symm
  | some duration =>
    simp only [hin] at h
    cases hend : ((c.importCall address).run node n).job.ending with
    | aborted =>
      rw [hend, SlowOperation.passOn, hname] at h
      exact .inl ⟨.aborted, (Except.error.inj h).symm⟩
    | returned result =>
      rw [hend] at h
      exact .inl (importCall_failsOnly.of_returned hend e h)

theorem error_importAddress (hname : c.importing.name = importOperation)
    (h : (c.importAddress node address).result = .error e) :
    e.ComesFrom c.asset importOperation ∨ e = .timeout importOperation c.importing.limit := by
  obtain ⟨k, -, -, hk, -⟩ := attemptFrom_ends (c.importOnce node address) 0 (importAttempts - 1)
  apply error_importOnce hname
  rw [← hk]
  exact h

end Bitcoin.Client

/-! ## All kinds of adapters -/

namespace Adapter

variable {a : Adapter} {node : Talk.Node} {address id operation : String} {e : NodeError}

/-- What an operation of an adapter may fail with: an error of its own asset and of that operation,
    or, where addresses and hashes have a form of their own, the refusal of a text. -/
def MayFail (a : Adapter) (operation : String) (e : NodeError) : Prop :=
  e.ComesFrom a.asset operation ∨
    (a.kind = .evm ∨ a.kind = .erc20) ∧ ∃ message, e = .invalidInput message

theorem info_failsOnly : a.info.Always (FailsOnly (NodeError.ComesFrom a.asset infoOperation)) := by
  cases a with
  | bitcoin c => exact Bitcoin.Client.info_failsOnly
  | ripple c => exact Ripple.Client.info_failsOnly
  | evm c => exact Evm.chainState_failsOnly
  | token t => exact Evm.chainState_failsOnly

theorem balance_failsOnly : (a.balance address).Always (FailsOnly (a.MayFail balanceOperation)) := by
  cases a with
  | bitcoin c => exact Bitcoin.Client.balance_failsOnly.mono fun _ h => h.mono fun _ => .inl
  | ripple c => exact Ripple.Client.balance_failsOnly.mono fun _ h => h.mono fun _ => .inl
  | evm c =>
    exact Evm.Client.balance_failsOnly.mono fun _ h => h.mono fun _ => Or.imp_right (.intro (.inl rfl))
  | token t =>
    exact Evm.Token.balance_failsOnly.mono fun _ h => h.mono fun _ => Or.imp_right (.intro (.inr rfl))

theorem transaction_failsOnly :
    (a.transaction id).Always (FailsOnly (a.MayFail transactionOperation)) := by
  cases a with
  | bitcoin c => exact Bitcoin.Client.transaction_failsOnly.mono fun _ h => h.mono fun _ => .inl
  | ripple c => exact Ripple.Client.transaction_failsOnly.mono fun _ h => h.mono fun _ => .inl
  | evm c =>
    exact Evm.Client.transaction_failsOnly.mono fun _ h =>
      h.mono fun _ => Or.imp_right (.intro (.inl rfl))
  | token t =>
    exact Evm.Token.transaction_failsOnly.mono fun _ h =>
      h.mono fun _ => Or.imp_right (.intro (.inr rfl))

/-! What an adapter answers when its node reacts in a certain way. -/

theorem error_info (h : (a.client node).info.ending = .returned (.error e)) :
    e.ComesFrom a.asset infoOperation :=
  info_failsOnly.of_returned h e rfl

theorem error_balance (h : ((a.client node).balance address).ending = .returned (.error e)) :
    a.MayFail balanceOperation e :=
  balance_failsOnly.of_returned h e rfl

theorem error_transaction (h : ((a.client node).transaction id).ending = .returned (.error e)) :
    a.MayFail transactionOperation e :=
  transaction_failsOnly.of_returned h e rfl

theorem error_importAddress {c : Bitcoin.Client} (hname : c.importing.name = importOperation)
    (h : (((Adapter.bitcoin c).client node).importAddress address).job.ending =
      .returned (.error e)) :
    e.ComesFrom c.asset importOperation ∨ e = .timeout importOperation c.importing.limit := by
  have hresult := Ending.returned.inj h
  exact Bitcoin.Client.error_importAddress hname (Result.map_eq_error_iff.1 hresult)

theorem importer_eq_none (h : a.kind ≠ .bitcoin) : (a.client node).importer = none := by
  cases a with
  | bitcoin c => exact absurd rfl h
  | ripple c => rfl
  | evm c => rfl
  | token t => rfl

/-- An adapter without imports answers at once. -/
theorem importAddress_eq_unsupported (h : a.kind ≠ .bitcoin) :
    (a.client node).importAddress address =
      { job := .instant (.error (.unsupported a.asset importOperation)) } := by
  unfold Client.importAddress
  rw [importer_eq_none h]
  rfl

/-- Whether an adapter fails only in its own name and in that of the operation that it is asked
    for, with a limit for imports, when its node reacts in a certain way. -/
structure FailsAsItself (a : Adapter) (limit : Duration) (node : Talk.Node) : Prop where
  info : ∀ e, (a.client node).info.ending = .returned (.error e) →
    ∃ cause, e = .failed a.asset "get_info" cause
  balance : ∀ address e, ((a.client node).balance address).ending = .returned (.error e) →
    (∃ cause, e = .failed a.asset "get_balance" cause) ∨
      (a.kind = .evm ∨ a.kind = .erc20) ∧ ∃ message, e = .invalidInput message
  transaction : ∀ id e, ((a.client node).transaction id).ending = .returned (.error e) →
    (∃ cause, e = .failed a.asset "get_transaction_by_hash" cause) ∨
      (a.kind = .evm ∨ a.kind = .erc20) ∧ ∃ message, e = .invalidInput message
  importing : a.kind = .bitcoin → ∀ address e,
    ((a.client node).importAddress address).job.ending = .returned (.error e) →
      (∃ cause, e = .failed a.asset "import_address" cause) ∨ e = .timeout "import_address" limit
  unsupported : a.kind ≠ .bitcoin → ∀ address, (a.client node).importAddress address =
    { job := .instant (.error (.unsupported a.asset "import_address")) }

theorem failsAsItself {limit : Duration}
    (himporting : ∀ c, a = .bitcoin c → c.importing = ⟨importOperation, limit⟩) :
    a.FailsAsItself limit node where
  info _ := error_info
  balance _ _ := error_balance
  transaction _ _ := error_transaction
  importing hkind address e he := by
    cases a with
    | bitcoin c =>
      have hc := himporting c rfl
      have herror := error_importAddress (by rw [hc]) he
      rw [hc] at herror
      exact herror
    | ripple c => cases hkind
    | evm c => cases hkind
    | token t => cases hkind
  unsupported hkind _ := importAddress_eq_unsupported hkind

end Adapter

end AssetOracle
