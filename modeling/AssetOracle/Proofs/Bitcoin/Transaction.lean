import AssetOracle.Proofs.Node.Channels
import AssetOracle.Proofs.Node.Amounts

/-!
# Transactions that spend outputs

What becomes of a transaction once the node has told it: the sender is the payee of the output that
the first input spends, which takes a second look-up (`Client.SentBy`), and the recipient is the
first payee among the outputs (`PaidFirst`). No other input is looked at
(`Client.transaction_of_finds`).
-/

namespace AssetOracle.Bitcoin

open Rpc (Talk Ask)

variable {outputs : List Output} {address : String}

/-- Whether an output is paid to an address: the one that it has, or else the first of its list. -/
def Script.PaidTo (s : Script) (address : String) : Prop :=
  s.address = some address ∨ s.address = none ∧ ∃ others, s.addresses = some (address :: others)

theorem Script.paidTo_iff {s : Script} : s.PaidTo address ↔ s.payee = some address := by
  unfold PaidTo payee
  cases s.address with
  | some own => simp
  | none =>
    cases s.addresses with
    | none => simp
    | some listed =>
      cases listed with
      | nil => simp
      | cons first others => simp

theorem Script.forall_not_paidTo_iff {s : Script} :
    (∀ address, ¬s.PaidTo address) ↔ s.payee = none := by
  simp only [paidTo_iff, Option.eq_none_iff_forall_ne_some, ne_eq]

/-- Whether an address is that of the first output that is paid to one. It is empty if there is no
    such output. -/
inductive PaidFirst : List Output → String → Prop where
  | nobody : PaidFirst [] ""
  | here {output : Output} {outputs : List Output} {address : String}
      (h : output.script.PaidTo address) : PaidFirst (output :: outputs) address
  | later {output : Output} {outputs : List Output} {address : String}
      (hnone : ∀ other, ¬output.script.PaidTo other) (h : PaidFirst outputs address) :
    PaidFirst (output :: outputs) address

theorem paidFirst_findSome? (outputs : List Output) :
    PaidFirst outputs ((outputs.findSome? (·.script.payee)).getD "") := by
  induction outputs with
  | nil => exact .nobody
  | cons output outputs ih =>
    cases hpayee : output.script.payee with
    | some address =>
      rw [List.findSome?_cons, hpayee]
      exact .here (Script.paidTo_iff.2 hpayee)
    | none =>
      rw [List.findSome?_cons, hpayee]
      exact .later (Script.forall_not_paidTo_iff.2 hpayee) ih

/-- Whether an input spends this output of this transaction. -/
def Input.Spends (input : Input) (spent : String) (index : Nat) : Prop :=
  input.transaction = some spent ∧ input.output = some index

namespace Client

variable {c : Client} {node : Talk.Node} {n : Nat} {id : String} {input : Input}
  {inputs : List Input} {raw : RawTransaction} {found : Except Rpc.Failure RawTransaction}

/-- Whether the look-up of a transaction as the call number `n` has this outcome: the transaction
    that the node tells, or the failure to have it told. -/
def Finds (c : Client) (node : Talk.Node) (n : Nat) (id : String)
    (found : Except Rpc.Failure RawTransaction) : Prop :=
  ∃ answer after, (node n (c.lookupAsk id)).answer c.link.ordinary.limit = some (answer, after) ∧
    answer.decode RawTransaction.decode c.link.ordinary.endpoint = found

/-- Whom a transaction with these inputs comes from, as far as that can be told: from nobody if its
    first input spends nothing, and else from the payee of the output that this input spends. -/
inductive SentBy (c : Client) (node : Talk.Node) : List Input → Option String → Prop where
  | noInputs : SentBy c node [] none
  | nobody {input : Input} {inputs : List Input} (h : ∀ spent index, ¬input.Spends spent index) :
    SentBy c node (input :: inputs) (some "")
  | notFound {input : Input} {inputs : List Input} {spent : String} {index : Nat}
      {failure : Rpc.Failure} (h : input.Spends spent index)
      (hfound : c.Finds node 1 spent (.error failure)) : SentBy c node (input :: inputs) none
  | beyond {input : Input} {inputs : List Input} {spent : String} {index : Nat}
      {funding : RawTransaction} (h : input.Spends spent index)
      (hfound : c.Finds node 1 spent (.ok funding)) (hindex : funding.outputs.length ≤ index) :
    SentBy c node (input :: inputs) none
  | unaddressed {input : Input} {inputs : List Input} {spent : String} {index : Nat}
      {funding : RawTransaction} {output : Output} (h : input.Spends spent index)
      (hfound : c.Finds node 1 spent (.ok funding))
      (houtput : funding.outputs[index]? = some output)
      (hnone : ∀ address, ¬output.script.PaidTo address) : SentBy c node (input :: inputs) none
  | payee {input : Input} {inputs : List Input} {spent address : String} {index : Nat}
      {funding : RawTransaction} {output : Output} (h : input.Spends spent index)
      (hfound : c.Finds node 1 spent (.ok funding))
      (houtput : funding.outputs[index]? = some output)
      (hpaid : output.script.PaidTo address) : SentBy c node (input :: inputs) (some address)

/-! ## One look-up -/

theorem value_rawTransaction (h : c.Finds node n id found) :
    ((c.rawTransaction id).run node n).value =
      some (found.mapError fun failure => c.failed transactionOperation (.rpc failure)) := by
  obtain ⟨answer, after, hanswer, rfl⟩ := h
  exact (Talk.run_of_answer _ hanswer).1

theorem calls_rawTransaction : ((c.rawTransaction id).run node n).calls =
    [(c.lookupAsk id, node n (c.lookupAsk id))] := (Talk.run_once _).2

theorem exists_finds (node : Talk.Node) (n : Nat) (id : String)
    (hlimit : c.link.ordinary.limit ≠ none) : ∃ found, c.Finds node n id found := by
  obtain ⟨answer, after, hanswer⟩ := Talk.exists_answer (node n (c.lookupAsk id)) hlimit
  exact ⟨_, answer, after, hanswer, rfl⟩

/-! ## The sender -/

theorem sender_of_spends_nothing (h : ∀ spent index, ¬input.Spends spent index) :
    c.sender input = pure (.ok "") := by
  unfold sender
  split
  · rename_i spent index htransaction houtput
    exact absurd ⟨htransaction, houtput⟩ (h spent index)
  · rfl

/-- What the payee of an output of the transaction that is spent means for the look-up. -/
def creditor (c : Client) (spent : String) (index : Nat) (funding : RawTransaction) :
    NodeResult String :=
  match payeeOf funding index with
  | some payee => .ok payee
  | none =>
    .error (c.failed transactionOperation
      (.text ("funding output " ++ spent ++ ":" ++ toString index ++ " has no address")))

theorem sender_of_spends {spent : String} {index : Nat} (h : input.Spends spent index) :
    c.sender input = (do return (← c.rawTransaction spent).bind (c.creditor spent index)) := by
  obtain ⟨htransaction, houtput⟩ := h
  unfold sender
  rw [htransaction, houtput]
  simp only
  congr 1
  funext reply
  cases reply with
  | error e => rfl
  | ok funding =>
    simp only [Except.bind, creditor]
    cases payeeOf funding index <;> rfl

theorem value_sender {spent : String} {index : Nat} (h : input.Spends spent index)
    (hfound : c.Finds node 1 spent found) :
    ((c.sender input).run node 1).value =
      some ((found.mapError fun failure => c.failed transactionOperation (.rpc failure)).bind
        (c.creditor spent index)) := by
  rw [sender_of_spends h, (Talk.run_map _).1, value_rawTransaction hfound]
  rfl

theorem calls_sender {spent : String} {index : Nat} (h : input.Spends spent index) :
    (((c.sender input).run node 1).calls.map (·.1)) = [c.lookupAsk spent] := by
  rw [sender_of_spends h, (Talk.run_map _).2, calls_rawTransaction]
  rfl

theorem payeeOf_eq_some {funding : RawTransaction} {index : Nat} {output : Output}
    (houtput : funding.outputs[index]? = some output) :
    payeeOf funding index = output.script.payee := by
  rw [payeeOf, houtput, Option.bind_some]

theorem value_sender_of_sentBy {sender : String}
    (h : SentBy c node (input :: inputs) (some sender)) :
    ((c.sender input).run node 1).value = some (.ok sender) := by
  cases h with
  | nobody h =>
    rw [sender_of_spends_nothing h]
    rfl
  | payee h hfound houtput hpaid =>
    rw [value_sender h hfound]
    simp only [Except.mapError, Except.bind, creditor, payeeOf_eq_some houtput,
      Script.paidTo_iff.1 hpaid]

theorem value_sender_of_not_sentBy (h : SentBy c node (input :: inputs) none) :
    ∃ cause, ((c.sender input).run node 1).value =
      some (.error (c.failed transactionOperation cause)) := by
  cases h with
  | notFound h hfound =>
    rw [value_sender h hfound]
    exact ⟨_, rfl⟩
  | beyond h hfound hindex =>
    rw [value_sender h hfound]
    simp only [Except.mapError, Except.bind, creditor, payeeOf,
      List.getElem?_eq_none hindex, Option.bind_none]
    exact ⟨_, rfl⟩
  | unaddressed h hfound houtput hnone =>
    rw [value_sender h hfound]
    simp only [Except.mapError, Except.bind, creditor, payeeOf_eq_some houtput,
      Script.forall_not_paidTo_iff.1 hnone]
    exact ⟨_, rfl⟩

/-- With a limit to the look-up it is always told whom a transaction comes from, or that this cannot
    be told. -/
theorem exists_sentBy (hlimit : c.link.ordinary.limit ≠ none) (inputs : List Input) :
    ∃ sender, SentBy c node inputs sender := by
  cases inputs with
  | nil => exact ⟨_, .noInputs⟩
  | cons input inputs =>
    by_cases hspends : ∃ spent index, input.Spends spent index
    · obtain ⟨spent, index, hspends⟩ := hspends
      obtain ⟨found, hfound⟩ := exists_finds node 1 spent hlimit
      cases found with
      | error failure => exact ⟨_, .notFound hspends hfound⟩
      | ok funding =>
        cases houtput : funding.outputs[index]? with
        | none => exact ⟨_, .beyond hspends hfound (List.getElem?_eq_none_iff.1 houtput)⟩
        | some output =>
          cases hpayee : output.script.payee with
          | none =>
            exact ⟨_, .unaddressed hspends hfound houtput (Script.forall_not_paidTo_iff.2 hpayee)⟩
          | some payee =>
            exact ⟨_, .payee hspends hfound houtput (Script.paidTo_iff.2 hpayee)⟩
    · exact ⟨_, .nobody fun spent index h => hspends ⟨spent, index, h⟩⟩

/-! ## The transaction -/

/-- A transaction that the node tells still needs its sender, if it has an input at all. -/
def completion (c : Client) (raw : RawTransaction) : Talk (NodeResult Transaction) :=
  match raw.inputs.head? with
  | none => pure (.error (c.failed transactionOperation (.text "transaction has no inputs")))
  | some input => do return (← c.sender input).map (transactionFrom raw)

/-- A transaction that the node tells is looked up once, and completed with the next call. -/
theorem run_transaction_of_finds (h : c.Finds node 0 id (.ok raw)) :
    ((c.transaction id).run node 0).value = ((c.completion raw).run node 1).value ∧
      ((c.transaction id).run node 0).calls.map (·.1) =
        c.lookupAsk id :: ((c.completion raw).run node 1).calls.map (·.1) := by
  unfold transaction
  rw [Talk.run_bind.1, Talk.run_bind.2, value_rawTransaction h, calls_rawTransaction]
  exact ⟨rfl, rfl⟩

theorem completion_of_cons (hinputs : raw.inputs = input :: inputs) :
    c.completion raw = do return (← c.sender input).map (transactionFrom raw) := by
  rw [completion, hinputs]
  rfl

theorem calls_completion_of_spends {spent : String} {index : Nat}
    (hinputs : raw.inputs = input :: inputs) (h : input.Spends spent index) :
    ((c.completion raw).run node 1).calls.map (·.1) = [c.lookupAsk spent] := by
  rw [completion_of_cons hinputs, (Talk.run_map _).2, calls_sender h]

theorem calls_completion_of_spends_nothing
    (h : ∀ input ∈ raw.inputs.head?, ∀ spent index, ¬input.Spends spent index) :
    ((c.completion raw).run node 1).calls.map (·.1) = [] := by
  unfold completion
  cases hinput : raw.inputs.head? with
  | none => rfl
  | some input =>
    simp only
    rw [(Talk.run_map _).2, sender_of_spends_nothing (h input hinput)]
    rfl

theorem value_completion_of_sentBy {sender : String}
    (h : SentBy c node raw.inputs (some sender)) :
    ((c.completion raw).run node 1).value = some (.ok (transactionFrom raw sender)) := by
  cases hinputs : raw.inputs with
  | nil =>
    rw [hinputs] at h
    cases h
  | cons input inputs =>
    rw [hinputs] at h
    rw [completion_of_cons hinputs, (Talk.run_map _).1, value_sender_of_sentBy h]
    rfl

theorem value_completion_of_not_sentBy (h : SentBy c node raw.inputs none) :
    ∃ cause, ((c.completion raw).run node 1).value =
      some (.error (c.failed transactionOperation cause)) := by
  cases hinputs : raw.inputs with
  | nil =>
    rw [completion, hinputs]
    exact ⟨_, rfl⟩
  | cons input inputs =>
    rw [hinputs] at h
    obtain ⟨cause, hcause⟩ := value_sender_of_not_sentBy h
    rw [completion_of_cons hinputs, (Talk.run_map _).1, hcause]
    exact ⟨cause, rfl⟩

/-- Of the inputs only the first one counts. -/
theorem completion_congr {raw' : RawTransaction}
    (hraw : raw' = { raw with inputs := raw'.inputs })
    (hinputs : raw'.inputs.head? = raw.inputs.head?) : c.completion raw' = c.completion raw := by
  have hfrom : transactionFrom raw' = transactionFrom raw := by
    rw [hraw]
    rfl
  rw [completion, completion, hinputs, hfrom]

/-- What becomes of a transaction that the node tells. A second look-up is made if and only if the
    first input spends an output of a transaction, and then for that transaction. The look-up fails
    if it cannot be told whom the transaction comes from: without an input, and if the second
    look-up fails or finds no output of that number, or one without an address. If it can be told,
    the sender is the payee of that very output, or empty if the first input spends none; the
    recipient is the first payee among the outputs. Inputs other than the first play no part. -/
theorem transaction_of_finds (c : Client) (node : Talk.Node) (id : String) (raw : RawTransaction)
    (h : c.Finds node 0 id (.ok raw)) :
    (∀ input inputs spent index, raw.inputs = input :: inputs → input.Spends spent index →
        (Adapter.bitcoin c).asks node (.transaction id) = [c.lookupAsk id, c.lookupAsk spent]) ∧
      ((∀ input ∈ raw.inputs.head?, ∀ spent index, ¬input.Spends spent index) →
        (Adapter.bitcoin c).asks node (.transaction id) = [c.lookupAsk id]) ∧
      (∀ sender, SentBy c node raw.inputs (some sender) →
        ∃ recipient, PaidFirst raw.outputs recipient ∧
          (((Adapter.bitcoin c).client node).transaction id).ending = .returned (.ok {
            id := raw.id
            sender := sender
            recipient := recipient
            value := totalText (raw.outputs.map (·.value))
            confirmation := .ofObserved (raw.confirmations.getD 0) })) ∧
      (SentBy c node raw.inputs none →
        ∃ cause, (((Adapter.bitcoin c).client node).transaction id).ending =
          .returned (.error (.failed c.asset transactionOperation cause))) ∧
      (c.link.ordinary.limit ≠ none → ∃ sender, SentBy c node raw.inputs sender) ∧
      ∀ (node' : Talk.Node) (raw' : RawTransaction), c.Finds node' 0 id (.ok raw') →
        (∀ n, node' (n + 1) = node (n + 1)) → raw' = { raw with inputs := raw'.inputs } →
        raw'.inputs.head? = raw.inputs.head? →
          (((Adapter.bitcoin c).client node').transaction id).ending =
              (((Adapter.bitcoin c).client node).transaction id).ending ∧
            (Adapter.bitcoin c).asks node' (.transaction id) =
              (Adapter.bitcoin c).asks node (.transaction id) := by
  obtain ⟨hvalue, hcalls⟩ := run_transaction_of_finds h
  refine ⟨?_, ?_, ?_, ?_, fun hlimit => exists_sentBy hlimit raw.inputs, ?_⟩
  · intro input inputs spent index hinputs hspends
    exact hcalls.trans (congrArg _ (calls_completion_of_spends hinputs hspends))
  · intro hnothing
    exact hcalls.trans (congrArg _ (calls_completion_of_spends_nothing hnothing))
  · intro sender hsender
    refine ⟨_, paidFirst_findSome? raw.outputs, ?_⟩
    apply Talk.Run.ending_job_iff.2
    exact hvalue.trans (value_completion_of_sentBy hsender)
  · intro hnone
    obtain ⟨cause, hcause⟩ := value_completion_of_not_sentBy hnone
    exact ⟨cause, Talk.Run.ending_job_iff.2 (hvalue.trans hcause)⟩
  · intro node' raw' h' hnode hraw hinputs
    obtain ⟨hvalue', hcalls'⟩ := run_transaction_of_finds h'
    -- After the first look-up it is the same talk, and the nodes react to it in the same way.
    have hrun : (c.completion raw').run node' 1 = (c.completion raw).run node 1 := by
      rw [completion_congr hraw hinputs]
      apply Talk.run_congr
      intro n hn
      obtain ⟨m, rfl⟩ := Nat.exists_eq_add_of_le' hn
      exact hnode m
    constructor
    · apply Talk.Run.ending_job_congr
      exact hvalue'.trans ((congrArg Talk.Run.value hrun).trans hvalue.symm)
    · exact hcalls'.trans (by rw [hrun]; exact hcalls.symm)

theorem finds_of_reply {after : Duration} {r : Rpc.Reply}
    (hreply : node n (c.lookupAsk id) = .reply after r)
    (hin : Rpc.inTime c.link.ordinary.limit after = true)
    (h : (Rpc.Answer.decode RawTransaction.decode c.link.ordinary.endpoint
      (.reply r)).toOption = some raw) : c.Finds node n id (.ok raw) := by
  refine ⟨.reply r, after, ?_, Result.toOption_eq_some_iff.1 h⟩
  rw [hreply, Talk.answer_reply hin]

/-- The result that a transaction spends the second output of another one. -/
def spendingResult : String :=
  "\x7b\"txid\":\"t\",\"confirmations\":7,\"vin\":[\x7b\"txid\":\"f\",\"vout\":1\x7d],\"vout\":[" ++
    "\x7b\"value\":0,\"scriptPubKey\":\x7b\x7d\x7d," ++
    "\x7b\"value\":1.5,\"scriptPubKey\":\x7b\"address\":\"R\"\x7d\x7d]\x7d"

/-- The result that the other one has two outputs, the second with a list of addresses. -/
def fundingResult : String :=
  "\x7b\"txid\":\"f\",\"vout\":[\x7b\"value\":0,\"scriptPubKey\":\x7b\x7d\x7d," ++
    "\x7b\"value\":2,\"scriptPubKey\":\x7b\"addresses\":[\"A\",\"B\"]\x7d\x7d]\x7d"

/-- A node that gives the one result to the first call and the other to the calls after it. -/
def spendingNode : Talk.Node := fun n =>
  Adapter.nodeSaying (if n = 0 then spendingResult else fundingResult) n

theorem transaction_of_finds_spending :
    (Adapter.bitcoin Adapter.sampleWallet).asks spendingNode (.transaction "t") =
        [Adapter.sampleWallet.lookupAsk "t", Adapter.sampleWallet.lookupAsk "f"] ∧
      ∃ tx, (((Adapter.bitcoin Adapter.sampleWallet).client spendingNode).transaction "t").ending =
          .returned (.ok tx) ∧
        tx.sender = "A" ∧ tx.confirmation.observed = some 7 := by
  have hfirst : Adapter.sampleWallet.Finds spendingNode 0 "t" (.ok {
      id := "t"
      confirmations := some 7
      inputs := [⟨some "f", some 1⟩]
      outputs := [⟨.zero, {}⟩, ⟨⟨0x3FF8000000000000⟩, { address := some "R" }⟩] }) :=
    finds_of_reply rfl rfl (by decide +kernel)
  have hsecond : Adapter.sampleWallet.Finds spendingNode 1 "f" (.ok {
      id := "f"
      confirmations := none
      inputs := []
      outputs := [⟨.zero, {}⟩, ⟨⟨0x4000000000000000⟩, { addresses := some ["A", "B"] }⟩] }) :=
    finds_of_reply rfl rfl (by decide +kernel)
  have hspends : Input.Spends ⟨some "f", some 1⟩ "f" 1 := ⟨rfl, rfl⟩
  have hpaid : Script.PaidTo { addresses := some ["A", "B"] } "A" := .inr ⟨rfl, _, rfl⟩
  obtain ⟨hcalls, -, hsent, -⟩ := transaction_of_finds _ _ _ _ hfirst
  obtain ⟨recipient, -, hending⟩ := hsent "A" (.payee hspends hsecond rfl hpaid)
  exact ⟨hcalls _ _ _ _ rfl hspends, _, hending, rfl, rfl⟩

end Client

end AssetOracle.Bitcoin
