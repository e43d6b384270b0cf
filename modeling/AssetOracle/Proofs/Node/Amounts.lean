import AssetOracle.Proofs.Decimal.Numeral
import AssetOracle.Proofs.Node.Confirmation

/-!
# Amounts as numerals

The amounts that adapters report are decimal numerals, with two exceptions. The total of an
output-based node's amounts may be beyond the largest binary number, and what an account issued is
reported as the ledger node spells it (`isNumeral_amount_iff`).
-/

namespace AssetOracle

open Decimal (Binary64 IsNumeral)
open Rpc (Talk Ask Reply)

/-! ## Output-based nodes -/

theorem Bitcoin.isNumeral_totalText_iff (amounts : List Binary64) :
    IsNumeral (totalText amounts) ↔ (Binary64.sum amounts).isFinite = true :=
  Decimal.isNumeral_fixed_iff

namespace Bitcoin.Client

variable {c : Client} {node : Talk.Node} {address id : String} {b : Balance} {tx : Transaction}

/-- The call that asks for the unspent outputs of an address. -/
def unspentAsk (c : Client) (address : String) : Ask :=
  ⟨c.link.ordinary, ⟨"listunspent",
    [.nat minConfirmations, .nat maxConfirmations, .array [.text address]]⟩⟩

/-- The amounts that a node lists as an address's unspent outputs. -/
def Lists (c : Client) (node : Talk.Node) (address : String) (amounts : List Binary64) : Prop :=
  ∃ after r result unspent, node 0 (c.unspentAsk address) = .reply after r ∧ r.outcome = .ok result ∧
    result.decode (Decoder.list Unspent.decode) = .ok unspent ∧ unspent.map (·.amount) = amounts

/-- The amounts that a node lists as a transaction's outputs. -/
def Pays (c : Client) (node : Talk.Node) (id : String) (amounts : List Binary64) : Prop :=
  ∃ after r result raw, node 0 (c.lookupAsk id) = .reply after r ∧ r.outcome = .ok result ∧
    result.decode RawTransaction.decode = .ok raw ∧ raw.outputs.map (·.value) = amounts

theorem lists_of_balance (h : (c.balance address).result (Talk.answersOf node) 0 = .ok b) :
    ∃ amounts, c.Lists node address amounts ∧ b = .single c.asset (totalText amounts) := by
  unfold balance at h
  rw [Talk.result_bind] at h
  obtain ⟨unspent, hunspent, rfl⟩ := Result.map_eq_ok_iff.1 h
  obtain ⟨after, r, result, hreply, hresult, hdecode⟩ := reply_of_call hunspent
  exact ⟨_, ⟨after, r, result, unspent, hreply, hresult, hdecode, rfl⟩, rfl⟩

theorem pays_of_transaction (h : (c.transaction id).result (Talk.answersOf node) 0 = .ok tx) :
    ∃ amounts, c.Pays node id amounts ∧ tx.value = totalText amounts := by
  obtain ⟨raw, sender, hraw, rfl⟩ := rawTransaction_of_transaction h
  obtain ⟨after, r, result, hreply, hresult, hdecode⟩ := reply_of_call hraw
  exact ⟨_, ⟨after, r, result, raw, hreply, hresult, hdecode, rfl⟩, rfl⟩

end Bitcoin.Client

/-! ## Ledger nodes -/

theorem Ripple.isNumeral_dropsText (drops : UInt64) : IsNumeral (dropsText drops) :=
  Decimal.isNumeral_ofList (Decimal.isUnsigned_scaled dropPlaces drops.toNat)

namespace Ripple.Client

variable {c : Client} {node : Talk.Node} {address id operation what drops text : String}
  {amount : Option Amount} {b : Balance} {tx : Transaction}

/-- The amount that a node says a transaction pays, if it pays one. -/
def Pays (c : Client) (node : Talk.Node) (id : String) (amount : Option Amount) : Prop :=
  ∃ after r given result payment, node 0 (c.lookupAsk id) = .reply after r ∧ r.outcome = .ok given ∧
    given.decode Decoder.any = .ok result ∧ result.decode Payment.decode = .ok payment ∧
    payment.amount = amount

/-- An amount in drops is refused unless it is a number. -/
theorem amountOfDrops_eq_ok_iff : c.amountOfDrops operation what drops = .ok text ↔
    ∃ n, drops? drops = some n ∧ text = dropsText n := by
  unfold amountOfDrops
  cases hdrops : drops? drops with
  | none => simp
  | some n => simp [eq_comm]

theorem isNumeral_of_amountOfDrops (h : c.amountOfDrops operation what drops = .ok text) :
    IsNumeral text := by
  obtain ⟨n, -, rfl⟩ := amountOfDrops_eq_ok_iff.1 h
  exact isNumeral_dropsText n

/-- The value of a payment is a numeral unless it is an issued amount that is not spelled as one. -/
theorem isNumeral_paymentValue_iff (h : c.paymentValue amount = .ok text) :
    IsNumeral text ↔
      ∀ currency issuer value, amount = some (.issued currency issuer value) → IsNumeral value := by
  cases amount with
  | none =>
    cases h
    have hzero : IsNumeral "0" := Decimal.isNumeral_toString 0
    simp [hzero]
  | some amount =>
    cases amount with
    | drops drops =>
      have hdrops : IsNumeral text := isNumeral_of_amountOfDrops h
      simp [hdrops]
    | issued currency issuer value =>
      cases h
      constructor
      · rintro htext _ _ _ ⟨⟩
        exact htext
      · intro hvalue
        exact hvalue currency issuer _ rfl

theorem exists_balance_eq (h : (c.balance address).result (Talk.answersOf node) 0 = .ok b) :
    ∃ text, b = .single c.asset text ∧ IsNumeral text := by
  unfold balance at h
  rw [Talk.result_bind] at h
  obtain ⟨text, htext, rfl⟩ := Result.map_eq_ok_iff.1 h
  obtain ⟨drops, -, hdrops⟩ := Result.bind_eq_ok_iff.1 htext
  exact ⟨text, rfl, isNumeral_of_amountOfDrops hdrops⟩

theorem pays_of_transaction (h : (c.transaction id).result (Talk.answersOf node) 0 = .ok tx) :
    ∃ amount, c.Pays node id amount ∧ c.paymentValue amount = .ok tx.value := by
  unfold transaction at h
  rw [Talk.result_bind] at h
  obtain ⟨payment, hpayment, htx⟩ := Result.bind_eq_ok_iff.1 h
  obtain ⟨after, r, given, result, hreply, hgiven, hresult, hdecode⟩ := reply_of_request hpayment
  obtain ⟨value, hvalue, rfl⟩ := Result.map_eq_ok_iff.1 htx
  exact ⟨_, ⟨after, r, given, result, payment, hreply, hgiven, hresult, hdecode, rfl⟩, hvalue⟩

end Ripple.Client

/-! ## Account-based nodes -/

namespace Evm

variable {answers : Nat → Ask → Rpc.Answer} {address id : String} {b : Balance} {tx : Transaction}

theorem Client.exists_balance_eq {c : Client} (h : (c.balance address).result answers 0 = .ok b) :
    ∃ n : Nat, b = .single c.asset (toString n) := by
  unfold balance at h
  cases haccount : parseAddress address with
  | error e =>
    simp only [haccount] at h
    cases h
  | ok account =>
    simp only [haccount] at h
    rw [Talk.result_bind] at h
    obtain ⟨wei, -, rfl⟩ := Result.map_eq_ok_iff.1 h
    exact ⟨wei, rfl⟩

theorem Client.exists_value_eq {c : Client} (h : (c.transaction id).result answers 0 = .ok tx) :
    ∃ n : Nat, tx.value = toString n := by
  unfold transaction at h
  rw [Talk.result_bind] at h
  obtain ⟨located, -, rfl⟩ := Result.map_eq_ok_iff.1 h
  exact ⟨located.transaction.value, rfl⟩

theorem Token.exists_balance_eq {t : Token} (h : (t.balance address).result answers 0 = .ok b) :
    ∃ n : Nat, b = .single t.asset (toString n) := by
  unfold balance at h
  cases haccount : parseAddress address with
  | error e =>
    simp only [haccount] at h
    cases h
  | ok account =>
    simp only [haccount] at h
    rw [Talk.result_bind] at h
    obtain ⟨raw, -, hraw⟩ := Result.bind_eq_ok_iff.1 h
    have hraw : t.balanceOf raw = .ok b := hraw
    unfold balanceOf at hraw
    by_cases hlength : raw.length = 32
    · rw [if_pos hlength] at hraw
      cases hraw
      exact ⟨_, rfl⟩
    · rw [if_neg hlength] at hraw
      cases hraw

theorem Token.exists_value_eq {t : Token} (h : (t.transaction id).result answers 0 = .ok tx) :
    ∃ n : Nat, tx.value = toString n := by
  unfold transaction at h
  rw [Talk.result_bind] at h
  obtain ⟨located, -, htx⟩ := Result.bind_eq_ok_iff.1 h
  obtain ⟨-, transfer, -, rfl⟩ := transactionOf_eq_ok_iff.1 htx
  exact ⟨transfer.amount, rfl⟩

end Evm

/-! ## Every adapter -/

namespace Adapter

variable {a : Adapter} {node : Talk.Node} {address id : String} {b : Balance} {tx : Transaction}

theorem isNumeral_balance (hkind : a.kind ≠ .bitcoin)
    (h : (a.balance address).result (Talk.answersOf node) 0 = .ok b) :
    ∃ text, b = .single a.asset text ∧ IsNumeral text := by
  cases a with
  | bitcoin c => exact absurd rfl hkind
  | ripple c => exact Ripple.Client.exists_balance_eq h
  | evm c =>
    obtain ⟨n, hn⟩ := Evm.Client.exists_balance_eq h
    exact ⟨_, hn, Decimal.isNumeral_toString n⟩
  | token t =>
    obtain ⟨n, hn⟩ := Evm.Token.exists_balance_eq h
    exact ⟨_, hn, Decimal.isNumeral_toString n⟩

theorem isNumeral_value_of_chain {channel : Rpc.Channel} (hchain : a.chain? = some channel)
    (h : (a.transaction id).result (Talk.answersOf node) 0 = .ok tx) : IsNumeral tx.value := by
  cases a with
  | bitcoin c => cases hchain
  | ripple c => cases hchain
  | evm c =>
    obtain ⟨n, hn⟩ := Evm.Client.exists_value_eq h
    exact hn ▸ Decimal.isNumeral_toString n
  | token t =>
    obtain ⟨n, hn⟩ := Evm.Token.exists_value_eq h
    exact hn ▸ Decimal.isNumeral_toString n

/-- A balance or the value of a transaction is a decimal numeral, unless an output-based node's
    amounts add up to more than the largest binary number, or a ledger node gives an issued amount
    that is not spelled as a numeral, which then is the value. -/
theorem isNumeral_amount_iff (a : Adapter) (node : Talk.Node) :
    (∀ (address : String) (b : Balance),
      ((a.client node).balance address).ending = .returned (.ok b) →
        ∃ text, b = .single a.asset text ∧ (a.kind ≠ .bitcoin → IsNumeral text) ∧
          ∀ c, a = .bitcoin c → ∃ amounts, c.Lists node address amounts ∧
            text = Bitcoin.totalText amounts ∧
            (IsNumeral text ↔ (Binary64.sum amounts).isFinite = true)) ∧
    ∀ (id : String) (tx : Transaction),
      ((a.client node).transaction id).ending = .returned (.ok tx) →
        (∀ channel, a.chain? = some channel → IsNumeral tx.value) ∧
        (∀ c, a = .bitcoin c → ∃ amounts, c.Pays node id amounts ∧
          tx.value = Bitcoin.totalText amounts ∧
          (IsNumeral tx.value ↔ (Binary64.sum amounts).isFinite = true)) ∧
        ∀ c, a = .ripple c → ∃ amount, c.Pays node id amount ∧
          (IsNumeral tx.value ↔ ∀ currency issuer value,
            amount = some (.issued currency issuer value) → IsNumeral value) ∧
          ∀ currency issuer value,
            amount = some (.issued currency issuer value) → tx.value = value := by
  constructor
  · intro address b h
    have hresult := Talk.result_of_returned h
    by_cases hkind : a.kind = .bitcoin
    · cases a with
      | bitcoin c =>
        obtain ⟨amounts, hlists, hb⟩ := Bitcoin.Client.lists_of_balance hresult
        refine ⟨_, hb, fun hother => absurd rfl hother, ?_⟩
        rintro _ ⟨⟩
        exact ⟨amounts, hlists, rfl, Bitcoin.isNumeral_totalText_iff amounts⟩
      | ripple c => cases hkind
      | evm c => cases hkind
      | token t => cases hkind
    · obtain ⟨text, hb, htext⟩ := isNumeral_balance hkind hresult
      refine ⟨text, hb, fun _ => htext, ?_⟩
      rintro c rfl
      exact absurd rfl hkind
  · intro id tx h
    have hresult := Talk.result_of_returned h
    refine ⟨fun channel hchain => isNumeral_value_of_chain hchain hresult, ?_, ?_⟩
    · rintro c rfl
      obtain ⟨amounts, hpays, hvalue⟩ := Bitcoin.Client.pays_of_transaction hresult
      refine ⟨amounts, hpays, hvalue, ?_⟩
      rw [hvalue]
      exact Bitcoin.isNumeral_totalText_iff amounts
    · rintro c rfl
      obtain ⟨amount, hpays, hvalue⟩ := Ripple.Client.pays_of_transaction hresult
      refine ⟨amount, hpays, Ripple.Client.isNumeral_paymentValue_iff hvalue, ?_⟩
      rintro currency issuer value rfl
      exact (Except.ok.inj hvalue).symm

/-- A channel to a node. -/
def sampleChannel : Rpc.Channel where
  number := 0
  protocol := .plain
  endpoint := ⟨"http", "", "", none, none, .segments [], none, none⟩
  limit := some (.ofSeconds 1)

/-- A node of a ledger. -/
def sampleLedger : Ripple.Client := ⟨"XRP", "main", sampleChannel⟩

/-- A node whose transactions spend outputs. -/
def sampleWallet : Bitcoin.Client where
  asset := "BTC"
  link := ⟨sampleChannel, sampleChannel⟩
  importing := ⟨"import_address", .ofSeconds 1⟩

/-- A node that gives one result to every call. -/
def nodeSaying (result : String) : Talk.Node := fun _ _ =>
  .reply (.ofMillis 1) ⟨200, Text.Utf8.encode ("\x7b\"result\":" ++ result ++ "\x7d")⟩

/-- The result that an account holds some drops. -/
def heldDrops (drops : String) : String :=
  "\x7b\"account_data\":\x7b\"Balance\":\"" ++ drops ++ "\"\x7d\x7d"

/-- The result that an issued amount is paid. -/
def issuedPayment (value : String) : String :=
  "\x7b\"hash\":\"H\",\"Account\":\"A\",\"Amount\":\x7b\"currency\":\"USD\",\"value\":\"" ++
    value ++ "\"\x7d\x7d"

/-- The result that two outputs are not spent. -/
def twoUnspent (amount : String) : String :=
  "[\x7b\"amount\":" ++ amount ++ "\x7d,\x7b\"amount\":" ++ amount ++ "\x7d]"

/-- The value that work ends with, if it ends with one. -/
def returned? {α : Type} (ending : Ending (NodeResult α)) : Option α :=
  match ending with
  | .returned (.ok value) => some value
  | _ => none

theorem eq_of_returned? {α : Type} {ending : Ending (NodeResult α)} {value : α}
    (h : returned? ending = some value) : ending = .returned (.ok value) := by
  cases ending with
  | aborted => cases h
  | returned result =>
    cases result with
    | error e => cases h
    | ok other =>
      cases h
      rfl

/-- A million and a half drops, two outputs that are not spent, and an issued amount. -/
theorem isNumeral_amount_iff_ofReplies :
    (∃ text, (((ripple sampleLedger).client (nodeSaying (heldDrops "1500000"))).balance "A").ending =
      .returned (.ok (.single "XRP" text)) ∧ IsNumeral text) ∧
    (∃ amounts, (((bitcoin sampleWallet).client (nodeSaying (twoUnspent "0.15"))).balance
        "A").ending = .returned (.ok (.single "BTC" (Bitcoin.totalText amounts))) ∧
      sampleWallet.Lists (nodeSaying (twoUnspent "0.15")) "A" amounts) ∧
    ∃ tx amount, (((ripple sampleLedger).client (nodeSaying (issuedPayment "12.5"))).transaction
        "H").ending = .returned (.ok tx) ∧
      sampleLedger.Pays (nodeSaying (issuedPayment "12.5")) "H" amount ∧
      (IsNumeral tx.value ↔ ∀ currency issuer value,
        amount = some (.issued currency issuer value) → IsNumeral value) := by
  have hdrops : (((ripple sampleLedger).client (nodeSaying (heldDrops "1500000"))).balance
      "A").ending = .returned (.ok (.single "XRP" "1.5")) := eq_of_returned? (by decide +kernel)
  have hunspent : (((bitcoin sampleWallet).client (nodeSaying (twoUnspent "0.15"))).balance
      "A").ending = .returned (.ok (.single "BTC" "0.300000")) := eq_of_returned? (by decide +kernel)
  have hissued : (((ripple sampleLedger).client (nodeSaying (issuedPayment "12.5"))).transaction
      "H").ending = .returned (.ok ⟨"H", "A", "", "12.5", .ofFinality false⟩) :=
    eq_of_returned? (by decide +kernel)
  refine ⟨?_, ?_, ?_⟩
  · obtain ⟨text, hb, htext, -⟩ := (isNumeral_amount_iff _ _).1 _ _ hdrops
    exact ⟨text, hb ▸ hdrops, htext (by decide)⟩
  · obtain ⟨text, hb, -, hwallet⟩ := (isNumeral_amount_iff _ _).1 _ _ hunspent
    obtain ⟨amounts, hlists, rfl, -⟩ := hwallet sampleWallet rfl
    exact ⟨amounts, hb ▸ hunspent, hlists⟩
  · obtain ⟨-, -, hledger⟩ := (isNumeral_amount_iff _ _).2 _ _ hissued
    obtain ⟨amount, hpays, hvalue, -⟩ := hledger sampleLedger rfl
    exact ⟨_, amount, hissued, hpays, hvalue⟩

/-- An issued amount with an exponent, and two outputs that are too much together. -/
theorem exists_amount_not_isNumeral :
    (∃ tx, (((ripple sampleLedger).client (nodeSaying (issuedPayment "1e5"))).transaction
      "H").ending = .returned (.ok tx) ∧ ¬ IsNumeral tx.value) ∧
    ∃ text, (((bitcoin sampleWallet).client (nodeSaying (twoUnspent "1.7e308"))).balance
      "A").ending = .returned (.ok (.single "BTC" text)) ∧ ¬ IsNumeral text := by
  have hissued : (((ripple sampleLedger).client (nodeSaying (issuedPayment "1e5"))).transaction
      "H").ending = .returned (.ok ⟨"H", "A", "", "1e5", .ofFinality false⟩) :=
    eq_of_returned? (by decide +kernel)
  have hunspent : (((bitcoin sampleWallet).client (nodeSaying (twoUnspent "1.7e308"))).balance
      "A").ending = .returned (.ok (.single "BTC" "inf")) := eq_of_returned? (by decide +kernel)
  refine ⟨⟨_, hissued, ?_⟩, ⟨_, hunspent, ?_⟩⟩
  · exact Decimal.not_isNumeral_of_mem (c := 'e') (by decide) (by decide)
  · exact Decimal.not_isNumeral_of_mem (c := 'i') (by decide) (by decide)

end Adapter

end AssetOracle
