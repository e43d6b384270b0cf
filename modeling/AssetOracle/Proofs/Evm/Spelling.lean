import AssetOracle.Proofs.Evm.Bytes
import AssetOracle.Proofs.Evm.Token
import AssetOracle.Proofs.Node.Amounts

/-!
# Addresses and hashes as arguments

An account-based adapter takes every spelling of an address or a hash and refuses every other text
before it asks its node (`Adapter.spelling_decides`). Which spelling is given makes no difference to
the calls. It makes none to the result either, but that the error about a transaction which is not
what was asked for repeats the id as it is spelled.
-/

namespace AssetOracle

open Rpc (Talk)

namespace Evm

variable {α : Type} {asset s s' : String} {channel : Rpc.Channel} {address : Address} {hash : Hash}

/-- Whether work ends with the refusal of its input. -/
def RefusesInput (ending : Ending (NodeResult α)) : Prop :=
  ∃ message, ending = .returned (.error (.invalidInput message))

/-- The error that a transaction is not what was asked for, which repeats its id. -/
def complaint (asset id tail : String) : NodeError :=
  .failed asset transactionOperation (.text ("transaction " ++ id ++ tail))

/-- What such an error may complain of. -/
inductive Complaint : String → Prop where
  | missing : Complaint " not found"
  | elsewhere (contract : Address) :
    Complaint (" is not addressed to " ++ Address.render contract)
  | noTransfer : Complaint " is not a token transfer"

/-- Whether two results are the same, but that one complaint may repeat one id and the other the
    other. -/
inductive SameBut (asset s s' : String) : NodeResult α → NodeResult α → Prop where
  | same (result : NodeResult α) : SameBut asset s s' result result
  | complaint {tail : String} (h : Complaint tail) :
    SameBut asset s s' (.error (Evm.complaint asset s tail)) (.error (Evm.complaint asset s' tail))

theorem parseAddress_eq_ok_iff : parseAddress s = .ok address ↔ Spells s address.bytes := by
  rw [parseAddress, Result.mapError_eq_ok_iff]
  exact parse_eq_ok_iff

theorem exists_parse_eq_error {size : Nat} (h : ¬IsSpelling size s) :
    ∃ e, FixedBytes.parse size s = .error e := by
  cases hparse : FixedBytes.parse size s with
  | error e => exact ⟨e, rfl⟩
  | ok x => exact absurd (exists_parse_eq_ok_iff.1 ⟨x, hparse⟩) h

theorem Client.balance_congr (c : Client) (h : Spells s address.bytes)
    (h' : Spells s' address.bytes) : c.balance s = c.balance s' := by
  rw [balance, balance, parseAddress_eq_ok_iff.2 h, parseAddress_eq_ok_iff.2 h']

theorem Token.balance_congr (t : Token) (h : Spells s address.bytes)
    (h' : Spells s' address.bytes) : t.balance s = t.balance s' := by
  rw [balance, balance, parseAddress_eq_ok_iff.2 h, parseAddress_eq_ok_iff.2 h']

/-- Two spellings of a hash are looked up alike. -/
theorem locate_alike (h : Spells s hash.bytes) (h' : Spells s' hash.bytes) :
    Talk.Alike (SameBut asset s s') (locate asset channel s) (locate asset channel s') := by
  unfold locate
  rw [parse_eq_ok_iff.2 h, parse_eq_ok_iff.2 h']
  refine .bind (.refl (R := Eq) (fun _ => rfl) _) ?_
  rintro reply _ rfl
  cases reply with
  | error e => exact .pure (.same _)
  | ok found =>
    cases found with
    | none => exact .pure (.complaint .missing)
    | some transaction => exact .refl SameBut.same _

/-- A transaction that the node does not know is reported with its id as it is spelled. -/
theorem value_locate_of_missing {node : Talk.Node} (h : Spells s hash.bytes)
    (hnone : Says node 0 (lookupAsk channel hash) (Decoder.optional AccountTransaction.decode)
      none) :
    ((locate asset channel s).run node 0).value =
      some (.error (complaint asset s " not found")) := by
  unfold locate
  rw [parse_eq_ok_iff.2 h]
  simp only
  rw [Talk.run_bind.1, value_request_eq_ok_iff.2 hnone]
  rfl

theorem SameBut.map {β : Type} {x y : NodeResult α} (f : α → β) (h : SameBut asset s s' x y) :
    SameBut asset s s' (x.map f) (y.map f) := by
  cases h with
  | same => exact .same _
  | complaint h => exact .complaint h

theorem SameBut.bind {β : Type} {x y : NodeResult α} {f g : α → NodeResult β}
    (h : SameBut asset s s' x y) (hf : ∀ value, SameBut asset s s' (f value) (g value)) :
    SameBut asset s s' (x.bind f) (y.bind g) := by
  cases h with
  | same =>
    cases x with
    | error e => exact .same _
    | ok value => exact hf value
  | complaint h => exact .complaint h

theorem Client.transaction_alike (c : Client) (h : Spells s hash.bytes)
    (h' : Spells s' hash.bytes) :
    Talk.Alike (SameBut c.asset s s') (c.transaction s) (c.transaction s') :=
  (locate_alike h h').bind fun _ _ hsame => .pure (hsame.map _)

theorem Token.transactionOf_sameBut (t : Token) (located : Located) :
    SameBut t.asset s s' (t.transactionOf s located) (t.transactionOf s' located) := by
  unfold transactionOf
  split
  · have htext (id : String) : "transaction " ++ id ++ " is not addressed to " ++
        Address.render t.contract = "transaction " ++ id ++ (" is not addressed to " ++
          Address.render t.contract) := String.append_assoc
    rw [htext, htext]
    exact .complaint (.elsewhere t.contract)
  · split
    · exact .complaint .noTransfer
    · exact .same _

theorem Token.transaction_alike (t : Token) (h : Spells s hash.bytes) (h' : Spells s' hash.bytes) :
    Talk.Alike (SameBut t.asset s s') (t.transaction s) (t.transaction s') :=
  (locate_alike h h').bind fun _ _ hsame => .pure (hsame.bind t.transactionOf_sameBut)

end Evm

namespace Adapter

open Evm (Address Hash IsSpelling Spells RefusesInput SameBut)

variable {a : Adapter} {channel : Rpc.Channel} {node : Talk.Node} {s s' : String}
  {account : Address} {hash : Hash} {e : Evm.HexError}

/-! ## Texts that are refused -/

theorem balance_of_error (hchain : a.chain? = some channel) (h : Address.parse s = .error e) :
    a.balance s =
      pure (.error (.invalidInput ("invalid address '" ++ s ++ "': " ++ e.message))) := by
  have hparse : Evm.parseAddress s =
      .error (.invalidInput ("invalid address '" ++ s ++ "': " ++ e.message)) := by
    rw [Evm.parseAddress, h]
    rfl
  obtain ⟨c, rfl, rfl⟩ | ⟨t, rfl, rfl⟩ := cases_of_chain hchain
  · rw [balance, Evm.Client.balance, hparse]
  · rw [balance, Evm.Token.balance, hparse]

theorem transaction_of_error (hchain : a.chain? = some channel)
    (h : Evm.FixedBytes.parse 32 s = .error e) : a.transaction s =
      pure (.error (.invalidInput ("invalid transaction hash '" ++ s ++ "': " ++ e.message))) := by
  obtain ⟨c, rfl, rfl⟩ | ⟨t, rfl, rfl⟩ := cases_of_chain hchain
  · rw [transaction, Evm.Client.transaction, Evm.locate, h]
    rfl
  · rw [transaction, Evm.Token.transaction, Evm.locate, h]
    rfl

/-- A text that is an address is never refused. -/
theorem balance_failsOnly_of_spells (hchain : a.chain? = some channel)
    (h : Spells s account.bytes) :
    (a.balance s).Always (FailsOnly (NodeError.ComesFrom a.asset balanceOperation)) := by
  have hparse := Evm.parseAddress_eq_ok_iff.2 h
  obtain ⟨c, rfl, rfl⟩ | ⟨t, rfl, rfl⟩ := cases_of_chain hchain
  · exact Evm.Client.balance_failsOnly_of_address hparse
  · exact Evm.Token.balance_failsOnly_of_address hparse

theorem transaction_failsOnly_of_spells (hchain : a.chain? = some channel)
    (h : Spells s hash.bytes) :
    (a.transaction s).Always (FailsOnly (NodeError.ComesFrom a.asset transactionOperation)) := by
  have hparse := Evm.parse_eq_ok_iff.2 h
  obtain ⟨c, rfl, rfl⟩ | ⟨t, rfl, rfl⟩ := cases_of_chain hchain
  · exact Evm.Client.transaction_failsOnly_of_hash hparse
  · exact Evm.Token.transaction_failsOnly_of_hash hparse

theorem not_refusesInput {α : Type} {t : Talk (NodeResult α)} {asset operation : String}
    (h : t.Always (FailsOnly (NodeError.ComesFrom asset operation))) :
    ¬RefusesInput (t.run node 0).job.ending := by
  rintro ⟨message, hending⟩
  obtain ⟨cause, hcause⟩ := h.of_returned hending _ rfl
  cases hcause

/-- What fails at once if a text is not read, and is never refused if it is read, is refused exactly
    for what is no spelling, and then without a call. -/
theorem refusesInput_iff {α : Type} {t : Talk (NodeResult α)} {asset operation : String}
    {size : Nat}
    (hunread : ∀ e, Evm.FixedBytes.parse size s = .error e →
      ∃ message, t = pure (.error (.invalidInput message)))
    (hread : ∀ x : Evm.FixedBytes size, Spells s x.bytes →
      t.Always (FailsOnly (NodeError.ComesFrom asset operation))) :
    (RefusesInput (t.run node 0).job.ending ↔ ¬IsSpelling size s) ∧
      (¬IsSpelling size s → (t.run node 0).calls = []) := by
  have hnot (h : ¬IsSpelling size s) : ∃ message, t = pure (.error (.invalidInput message)) := by
    obtain ⟨e, he⟩ := Evm.exists_parse_eq_error h
    exact hunread e he
  refine ⟨⟨fun hrefuses hspelling => ?_, fun h => ?_⟩, fun h => ?_⟩
  · obtain ⟨x, hx⟩ := Evm.exists_parse_eq_ok_iff.2 hspelling
    exact not_refusesInput (hread x (Evm.parse_eq_ok_iff.1 hx)) hrefuses
  · obtain ⟨message, rfl⟩ := hnot h
    exact ⟨message, rfl⟩
  · obtain ⟨message, rfl⟩ := hnot h
    rfl

theorem refusesInput_balance_iff (hchain : a.chain? = some channel) :
    (RefusesInput ((a.client node).balance s).ending ↔ ¬IsSpelling 20 s) ∧
      (¬IsSpelling 20 s → ((a.balance s).run node 0).calls = []) :=
  refusesInput_iff (fun _ he => ⟨_, balance_of_error hchain he⟩) fun _ =>
    balance_failsOnly_of_spells hchain

theorem refusesInput_transaction_iff (hchain : a.chain? = some channel) :
    (RefusesInput ((a.client node).transaction s).ending ↔ ¬IsSpelling 32 s) ∧
      (¬IsSpelling 32 s → ((a.transaction s).run node 0).calls = []) :=
  refusesInput_iff (fun _ he => ⟨_, transaction_of_error hchain he⟩) fun _ =>
    transaction_failsOnly_of_spells hchain

/-! ## Two spellings -/

theorem balance_congr (hchain : a.chain? = some channel) (h : Spells s account.bytes)
    (h' : Spells s' account.bytes) : a.balance s = a.balance s' := by
  obtain ⟨c, rfl, rfl⟩ | ⟨t, rfl, rfl⟩ := cases_of_chain hchain
  · exact c.balance_congr h h'
  · exact t.balance_congr h h'

theorem transaction_alike (hchain : a.chain? = some channel) (h : Spells s hash.bytes)
    (h' : Spells s' hash.bytes) :
    Talk.Alike (SameBut a.asset s s') (a.transaction s) (a.transaction s') := by
  obtain ⟨c, rfl, rfl⟩ | ⟨t, rfl, rfl⟩ := cases_of_chain hchain
  · exact c.transaction_alike h h'
  · exact t.transaction_alike h h'

theorem ending_of_missing (hchain : a.chain? = some channel) (h : Spells s hash.bytes)
    (hnone : Evm.Says node 0 (Evm.lookupAsk channel hash)
      (Decoder.optional Evm.AccountTransaction.decode) none) :
    ((a.client node).transaction s).ending =
      .returned (.error (Evm.complaint a.asset s " not found")) := by
  have hlocate (asset : String) : ((Evm.locate asset channel s).run node 0).value = _ :=
    Evm.value_locate_of_missing h hnone
  refine Talk.Run.ending_job_iff.2 ?_
  obtain ⟨c, rfl, rfl⟩ | ⟨t, rfl, rfl⟩ := cases_of_chain hchain
  · refine (Talk.run_map _).1.trans ?_
    rw [hlocate]
    rfl
  · refine (Talk.run_map _).1.trans ?_
    rw [hlocate]
    rfl

/-- An account-based adapter takes a text for an address or a hash exactly if it is made of forty or
    sixty-four hexadecimal digits of either case, perhaps after `0x` or `0X`, and it refuses exactly
    the other texts as invalid input, without a call to its node. Two spellings of one address have
    the balance asked for and answered in the same way. Two spellings of one hash lead to the same
    calls and, in the same time, to the same result, but that the error about a transaction which is
    missing or is not the token's repeats the id as it was given. -/
theorem spelling_decides (a : Adapter) (hchain : a.chain? = some channel) (node : Talk.Node) :
    (∀ s, ((∃ account, Address.parse s = .ok account) ↔ IsSpelling 20 s) ∧
      (RefusesInput ((a.client node).balance s).ending ↔ ¬IsSpelling 20 s) ∧
      (¬IsSpelling 20 s → ((a.balance s).run node 0).calls = [])) ∧
    (∀ s, ((∃ hash : Hash, Evm.FixedBytes.parse 32 s = .ok hash) ↔ IsSpelling 32 s) ∧
      (RefusesInput ((a.client node).transaction s).ending ↔ ¬IsSpelling 32 s) ∧
      (¬IsSpelling 32 s → ((a.transaction s).run node 0).calls = [])) ∧
    (∀ (account : Address) s s', Spells s account.bytes → Spells s' account.bytes →
      (a.balance s).run node 0 = (a.balance s').run node 0) ∧
    ∀ (hash : Hash) s s', Spells s hash.bytes → Spells s' hash.bytes →
      ((a.transaction s).run node 0).calls = ((a.transaction s').run node 0).calls ∧
      ((a.transaction s).run node 0).elapsed = ((a.transaction s').run node 0).elapsed ∧
      Option.Rel (SameBut a.asset s s') ((a.transaction s).run node 0).value
        ((a.transaction s').run node 0).value := by
  refine ⟨?_, ?_, ?_, ?_⟩
  · intro s
    exact ⟨Evm.exists_parse_eq_ok_iff, refusesInput_balance_iff hchain⟩
  · intro s
    exact ⟨Evm.exists_parse_eq_ok_iff, refusesInput_transaction_iff hchain⟩
  · intro account s s' h h'
    rw [balance_congr hchain h h']
  · intro hash s s' h h'
    exact (transaction_alike hchain h h').run node 0

/-- The sample hash without its mark. -/
def bareHash : String := "0000000000000000000000000000000000000000000000000000000000000001"

/-- An address behind a mark with a capital. -/
def capitalMarked : String := "0XdAC17F958D2ee523a2206206994597C13D831ec7"

theorem exists_spells_sampleHash :
    ∃ hash : Hash, Spells sampleHash hash.bytes ∧ Spells bareHash hash.bytes := by
  obtain ⟨hash, hhash⟩ : ∃ hash : Hash, Evm.FixedBytes.parse 32 sampleHash = .ok hash :=
    Result.exists_of_isOk (by decide +kernel)
  have hsame : Evm.FixedBytes.parse 32 bareHash = Evm.FixedBytes.parse 32 sampleHash := by
    decide +kernel
  exact ⟨hash, Evm.parse_eq_ok_iff.1 hhash, Evm.parse_eq_ok_iff.1 (hsame.trans hhash)⟩

/-- With and without its mark, a hash is looked up by the same calls; and an address behind a mark
    with a capital is not refused, but half an address is. -/
theorem spelling_decides_sampleHash :
    ((Adapter.evm sampleChain).transaction sampleHash |>.run (nodeAt "0x68") 0).calls =
        ((Adapter.evm sampleChain).transaction bareHash |>.run (nodeAt "0x68") 0).calls ∧
      ¬RefusesInput (((Adapter.evm sampleChain).client (nodeAt "0x68")).balance
        capitalMarked).ending ∧
      RefusesInput (((Adapter.evm sampleChain).client (nodeAt "0x68")).balance
        "0xdAC17F958D").ending := by
  obtain ⟨haddresses, -, -, hhashes⟩ :=
    @spelling_decides sampleChain.channel (.evm sampleChain) rfl (nodeAt "0x68")
  obtain ⟨hash, hmarked, hbare⟩ := exists_spells_sampleHash
  refine ⟨(hhashes hash _ _ hmarked hbare).1, fun hrefuses => ?_, ?_⟩
  · refine (haddresses capitalMarked).2.1.1 hrefuses ((haddresses capitalMarked).1.1 ?_)
    exact Result.exists_of_isOk (by decide +kernel)
  · refine (haddresses "0xdAC17F958D").2.1.2 fun hspelling => ?_
    obtain ⟨account, haccount⟩ := (haddresses "0xdAC17F958D").1.2 hspelling
    have hrefused : Address.parse "0xdAC17F958D" = .error .wrongLength := by decide +kernel
    rw [hrefused] at haccount
    cases haccount

/-- Whether a text is made of so many digits, perhaps after `0x` but after no other mark. -/
def IsPlain (size : Nat) (s : String) : Prop :=
  ∃ mark ∈ [[], ['0', 'x']], ∃ digits, s.toList = mark ++ digits ∧ digits.length = 2 * size ∧
    ∀ c ∈ digits, c ∈ Text.Hex.alphabet

theorem not_isPlain_capitalMarked : ¬IsPlain 20 capitalMarked := by
  rintro ⟨mark, hmark, digits, hs, -, hall⟩
  have hletter : 'X' ∈ mark ++ digits := by
    rw [← hs]
    decide
  rcases List.mem_append.1 hletter with hmem | hmem
  · simp only [List.mem_cons, List.not_mem_nil, or_false] at hmark
    rcases hmark with rfl | rfl
    · cases hmem
    · exact absurd hmem (by decide)
  · exact absurd (hall _ hmem) (by decide)

/-- A node that does not know a hash has any two of its spellings end with different errors. -/
theorem ending_ne_of_missing (hchain : a.chain? = some channel) (h : Spells s hash.bytes)
    (h' : Spells s' hash.bytes) (hne : s ≠ s')
    (hnone : Evm.Says node 0 (Evm.lookupAsk channel hash)
      (Decoder.optional Evm.AccountTransaction.decode) none) :
    ((a.client node).transaction s).ending ≠ ((a.client node).transaction s').ending := by
  rw [ending_of_missing hchain h hnone, ending_of_missing hchain h' hnone]
  simpa [Evm.complaint] using hne

/-- An address whose mark is not `0x` is not refused; and a node that does not know a hash has its
    two spellings end with different errors. -/
theorem exists_spelling_not_plain :
    (¬IsPlain 20 capitalMarked ∧
      ¬RefusesInput (((Adapter.evm sampleChain).client (nodeSaying "null")).balance
        capitalMarked).ending) ∧
    ∃ hash : Hash, Evm.FixedBytes.parse 32 sampleHash = .ok hash ∧
      Evm.FixedBytes.parse 32 bareHash = .ok hash ∧
      (((Adapter.evm sampleChain).client (nodeSaying "null")).transaction sampleHash).ending ≠
        (((Adapter.evm sampleChain).client (nodeSaying "null")).transaction bareHash).ending := by
  have hchain : (Adapter.evm sampleChain).chain? = some sampleChain.channel := rfl
  refine ⟨⟨not_isPlain_capitalMarked, fun hrefuses => ?_⟩, ?_⟩
  · exact (refusesInput_balance_iff hchain).1.1 hrefuses
      (Evm.exists_parse_eq_ok_iff.1 (Result.exists_of_isOk (by decide +kernel)))
  · obtain ⟨hash, hmarked, hbare⟩ := exists_spells_sampleHash
    have hnone : Evm.Says (nodeSaying "null") 0 (Evm.lookupAsk sampleChain.channel hash)
        (Decoder.optional Evm.AccountTransaction.decode) none :=
      ⟨_, _, Talk.answer_reply rfl, Result.toOption_eq_some_iff.1 (by decide +kernel)⟩
    exact ⟨hash, Evm.parse_eq_ok_iff.2 hmarked, Evm.parse_eq_ok_iff.2 hbare,
      ending_ne_of_missing hchain hmarked hbare (by decide) hnone⟩

end Adapter

end AssetOracle
