import AssetOracle.Proofs.Bitcoin.Layout
import AssetOracle.Proofs.Node.Amounts
import AssetOracle.Proofs.Ripple.Layout

/-!
# Nodes whose replies have another layout

What an output-based node or a ledger node says depends neither on the order of the members in its
replies nor on members that the adapter does not read, however deep they are in a reply
(`Adapter.succeedsAs_of_relaid`). So a node may be replaced by one that says more, or says it in
another order, and the adapter does not notice.
-/

namespace AssetOracle

open Rpc (Talk Reaction Reply)

/-- Whether two clients succeed at the same operations, with the same values. -/
structure Client.SucceedsAs (x y : Client) : Prop where
  info : ∀ state, x.info.ending = .returned (.ok state) ↔ y.info.ending = .returned (.ok state)
  balance : ∀ address b, (x.balance address).ending = .returned (.ok b) ↔
    (y.balance address).ending = .returned (.ok b)
  transaction : ∀ id tx, (x.transaction id).ending = .returned (.ok tx) ↔
    (y.transaction id).ending = .returned (.ok tx)
  importing : ∀ address done, (x.importAddress address).job.ending = .returned (.ok done) ↔
    (y.importAddress address).job.ending = .returned (.ok done)

namespace Adapter

variable {a : Adapter} {node node' : Talk.Node}

/-- The places of the result of a call, for the kinds of nodes whose replies are read by name. -/
def resultShape : Adapter → String → Shape
  | .bitcoin _ => Bitcoin.resultShape
  | .ripple _ => Ripple.resultShape
  | _ => fun _ => .free

/-- Whether a node reacts like another one, up to the layout of its replies. -/
def Relaid (a : Adapter) (node node' : Talk.Node) : Prop :=
  ∀ n ask, (node n ask).Rel (Reply.Relaid (a.resultShape ask.call.method)) (node' n ask)

/-- Whether a node reacts like another one, as far as the adapter can tell. -/
def Alike (a : Adapter) (node node' : Talk.Node) : Prop :=
  ∀ n ask, (node n ask).Rel (Reply.Alike (a.resultShape ask.call.method)) (node' n ask)

theorem Relaid.alike (h : a.Relaid node node') : a.Alike node node' :=
  fun n ask => (h n ask).mono fun _ _ => Reply.Relaid.alike

theorem Alike.symm (h : a.Alike node node') : a.Alike node' node :=
  fun n ask => (h n ask).symm fun _ _ => Reply.Alike.symm

/-- Every operation that is one talk is transferred from node to node. -/
theorem Alike.transfers (hkind : a.kind = .bitcoin ∨ a.kind = .ripple) (h : a.Alike node node') :
    a.info.Transfers node node' ∧ (∀ address, (a.balance address).Transfers node node') ∧
      ∀ id, (a.transaction id).Transfers node node' := by
  cases a with
  | bitcoin c =>
    exact ⟨Bitcoin.Client.transfers_info h, fun _ => Bitcoin.Client.transfers_balance h,
      fun _ => Bitcoin.Client.transfers_transaction h⟩
  | ripple c =>
    exact ⟨Ripple.Client.transfers_info h, fun _ => Ripple.Client.transfers_balance h,
      fun _ => Ripple.Client.transfers_transaction h⟩
  | evm c => simp [kind] at hkind
  | token t => simp [kind] at hkind

/-- An import succeeds if it does against a node that reacts alike; of the other kinds of nodes none
    can import. -/
theorem Alike.importing (h : a.Alike node node') {address : String} {done : Unit}
    (hdone : ((a.client node).importAddress address).job.ending = .returned (.ok done)) :
    ((a.client node').importAddress address).job.ending = .returned (.ok done) := by
  cases a with
  | bitcoin c =>
    obtain ⟨state, hstate, -⟩ := Result.map_eq_ok_iff.1 (Ending.returned.inj hdone)
    exact congrArg Ending.returned <|
      Result.map_eq_ok_iff.2 ⟨state, Bitcoin.Client.importAddress_of_alike h hstate, rfl⟩
  | ripple c => cases hdone
  | evm c => cases hdone
  | token t => cases hdone

/-- The replies of output-based nodes and of ledger nodes are read by name. If two nodes differ only
    in the order of the members in their replies, at any depth, and in further members, of names that
    are not read and with values that can be kept, and no object repeats a name in those replies of
    the first one that the second one changes, then the same operations succeed with the same values,
    and imports end in the same states. -/
theorem succeedsAs_of_relaid (hkind : a.kind = .bitcoin ∨ a.kind = .ripple)
    (h : a.Relaid node node') :
    (a.client node).SucceedsAs (a.client node') ∧
      ∀ c, a = .bitcoin c → ∀ address state,
        (c.importAddress node address).result = .ok state ↔
          (c.importAddress node' address).result = .ok state := by
  have halike := h.alike
  obtain ⟨hinfo, hbalance, htransaction⟩ := halike.transfers hkind
  obtain ⟨hinfo', hbalance', htransaction'⟩ := halike.symm.transfers hkind
  constructor
  · exact {
      info := fun _ => ⟨hinfo.ending, hinfo'.ending⟩
      balance := fun address _ => ⟨(hbalance address).ending, (hbalance' address).ending⟩
      transaction := fun id _ => ⟨(htransaction id).ending, (htransaction' id).ending⟩
      importing := fun _ _ => ⟨halike.importing, halike.symm.importing⟩ }
  · rintro c rfl address state
    exact ⟨Bitcoin.Client.importAddress_of_alike halike,
      Bitcoin.Client.importAddress_of_alike halike.symm⟩

/-- A node that replies to the calls of one method, and not at all to others. -/
def nodeReplying (method : String) (body : List UInt8) : Talk.Node := fun _ ask =>
  if ask.call.method = method then .reply (.ofMillis 1) ⟨200, body⟩ else .stall

theorem relaid_nodeReplying {method : String} {body body' : List UInt8}
    (h : Reply.Relaid (a.resultShape method) ⟨200, body⟩ ⟨200, body'⟩) :
    a.Relaid (nodeReplying method body) (nodeReplying method body') := by
  intro n ask
  unfold nodeReplying
  by_cases hmethod : ask.call.method = method
  · rw [if_pos hmethod, if_pos hmethod, hmethod]
    exact .reply _ h
  · rw [if_neg hmethod, if_neg hmethod]
    exact .same _

/-- An object in which the order of the members is reversed, and with further members. -/
theorem relaid_reverse {s : Shape} (pairs : List (Except Fault String × Document × Document))
    (added : Members)
    (hadded : ∀ m ∈ added, ∃ name, m.1 = .ok name ∧ ¬s.Reads name ∧ m.2.Fit)
    (h : ∀ p ∈ pairs, Document.Relaid (s.behind p.1) p.2.1 p.2.2) :
    Document.Relaid s (.object (pairs.map fun p => (p.1, p.2.1)) none)
      (.object (pairs.map (fun p => (p.1, p.2.2)) ++ added).reverse none) :=
  .object pairs added hadded (List.reverse_perm _) fun name d d' hp => h (name, d, d') hp

/-- A reply with an issued amount that is paid. -/
def paymentBody : List UInt8 :=
  Text.Utf8.encode ("\x7b\"result\":\x7b\"hash\":\"H\",\"Account\":\"A\"," ++
    "\"Amount\":\x7b\"currency\":\"USD\",\"value\":\"1\"\x7d\x7d\x7d")

/-- The same reply of a node that says more. -/
def longPaymentBody : List UInt8 :=
  Text.Utf8.encode ("\x7b\"warnings\":[],\"result\":\x7b\"ledger_index\":5," ++
    "\"Amount\":\x7b\"value\":\"1\",\"currency\":\"USD\"\x7d,\"Account\":\"A\",\"hash\":\"H\"\x7d\x7d")

/-- An issued amount. -/
def paid : Document := .object [(.ok "currency", .text "USD"), (.ok "value", .text "1")] none

/-- An issued amount in another order. -/
def reversedPaid : Document :=
  .object [(.ok "value", .text "1"), (.ok "currency", .text "USD")] none

/-- A payment. -/
def payment : Document :=
  .object [(.ok "hash", .text "H"), (.ok "Account", .text "A"), (.ok "Amount", paid)] none

/-- A payment, and the ledger that it is in. -/
def longPayment : Document :=
  .object [(.ok "ledger_index", .number (.integer 5)), (.ok "Amount", reversedPaid),
    (.ok "Account", .text "A"), (.ok "hash", .text "H")] none

theorem ofBytes_paymentBody : Json.Source.ofBytes paymentBody =
    ⟨.object [(.ok "result", payment)] none, false⟩ := by
  cbv

theorem ofBytes_longPaymentBody : Json.Source.ofBytes longPaymentBody =
    ⟨.object [(.ok "warnings", .array [] none), (.ok "result", longPayment)] none, false⟩ := by
  cbv

theorem relaid_paid : Document.Relaid Ripple.Amount.shape paid reversedPaid :=
  relaid_reverse [(.ok "currency", .text "USD", .text "USD"), (.ok "value", .text "1", .text "1")]
    [] (by simp) (by simpa using ⟨.scalar trivial, .scalar trivial⟩)

theorem relaid_payment : Document.Relaid Ripple.Payment.shape payment longPayment :=
  relaid_reverse [(.ok "hash", .text "H", .text "H"), (.ok "Account", .text "A", .text "A"),
      (.ok "Amount", paid, reversedPaid)] [(.ok "ledger_index", .number (.integer 5))]
    (by simp [Shape.Reads, Ripple.Payment.shape, Ripple.reportFields, Document.Fit,
      Document.keepFault])
    (by simpa using ⟨.scalar trivial, .scalar trivial, relaid_paid⟩)

theorem distinct_payment : payment.Distinct := by
  have hdistinct : paid.Distinct := .object (by simp) (by simpa using ⟨.text _, .text _⟩)
  exact .object (by simp) (by simpa using ⟨.text _, .text _, hdistinct⟩)

theorem relaid_paymentBody :
    Reply.Relaid (Adapter.resultShape (.ripple sampleLedger) "tx") ⟨200, paymentBody⟩
      ⟨200, longPaymentBody⟩ := by
  constructor
  · rw [ofBytes_paymentBody]
    exact .object (by simp) (by simpa using distinct_payment)
  · rw [ofBytes_paymentBody, ofBytes_longPaymentBody]
    refine relaid_reverse [(.ok "result", payment, longPayment)]
      [(.ok "warnings", .array [] none)] ?_ ?_
    · simp [Shape.Reads, Rpc.Envelope.shape, Document.Fit, Document.keepFault, Document.keepItems]
    · intro p hp
      obtain rfl := List.mem_singleton.1 hp
      exact relaid_payment
  · rw [ofBytes_paymentBody, ofBytes_longPaymentBody]

/-- A payment that is said in two ways. -/
theorem succeedsAs_of_relaid_payment :
    (((ripple sampleLedger).client (nodeReplying "tx" longPaymentBody)).transaction
      "H").ending = .returned (.ok ⟨"H", "A", "", "1", .ofFinality false⟩) := by
  have hplain : (((ripple sampleLedger).client (nodeReplying "tx" paymentBody)).transaction
      "H").ending = .returned (.ok ⟨"H", "A", "", "1", .ofFinality false⟩) :=
    eq_of_returned? (by decide +kernel)
  obtain ⟨hsame, -⟩ := succeedsAs_of_relaid (.inr rfl) (relaid_nodeReplying relaid_paymentBody)
  exact (hsame.transaction _ _).1 hplain

end Adapter

end AssetOracle
