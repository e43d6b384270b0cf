import AssetOracle.Node.Adapter
import AssetOracle.Proofs.Rpc.Talk

/-!
# The channels of an adapter

Whatever is asked of an adapter, and whatever nodes answer, its calls are made on channels of its
own (`Adapter.owns_of_mem_asks`): imports on the channel for imports, everything else on the
ordinary one.
-/

namespace AssetOracle

open Rpc (Talk Ask Channel Call)

variable {A : Ask → Prop} {address id : String}

/-! ## Output-based nodes -/

namespace Bitcoin.Client

variable {c : Client} {node : Talk.Node}

section Ordinary

variable (h : ∀ call, A ⟨c.link.ordinary, call⟩)
include h

theorem only_call {α : Type} {operation method : String} {params : List Json}
    {decoder : Decoder α} : (c.call operation method params decoder).Only A :=
  .bind (.bind (.call h) fun _ => .pure _) fun _ => .pure _

theorem only_info : c.info.Only A := .bind (only_call h) fun _ => .pure _

theorem only_balance : (c.balance address).Only A := .bind (only_call h) fun _ => .pure _

theorem only_sender (input : Input) : (c.sender input).Only A := by
  unfold sender
  cases input.transaction with
  | none => exact .pure _
  | some id =>
    cases input.output with
    | none => exact .pure _
    | some index =>
      refine .bind (only_call h) fun reply => ?_
      cases reply with
      | error e => exact .pure _
      | ok funding =>
        cases hpayee : payeeOf funding index <;> simp only [hpayee] <;> exact .pure _

theorem only_transaction : (c.transaction id).Only A := by
  refine .bind (only_call h) fun reply => ?_
  cases reply with
  | error e => exact .pure _
  | ok t =>
    cases hinput : t.inputs.head? with
    | none =>
      simp only [hinput]
      exact .pure _
    | some input =>
      simp only [hinput]
      exact .bind (only_sender h input) fun _ => .pure _

end Ordinary

theorem only_importCall (h : ∀ call, A ⟨c.link.importing, call⟩) : (c.importCall address).Only A :=
  .bind (.bind (.call h) fun _ => .pure _) fun _ => .pure _

theorem channel_of_mem_importCalls {call : Duration × Ask}
    (h : call ∈ c.importCalls node address) : call.2.channel = c.link.importing := by
  obtain ⟨⟨start, n⟩, -, hcall⟩ := List.mem_flatMap.1 h
  obtain ⟨made, hmade, rfl⟩ := List.mem_map.1 hcall
  have honly : (c.importCall address).Only fun ask => ask.channel = c.link.importing :=
    only_importCall fun _ => rfl
  exact honly.of_mem_calls hmade

end Bitcoin.Client

/-! ## Ledger nodes -/

namespace Ripple.Client

variable {c : Client} (h : ∀ call, A ⟨c.channel, call⟩)
include h

theorem only_request {α : Type} {operation method : String} {params : Json}
    {decoder : Decoder α} : (c.request operation method params decoder).Only A :=
  .bind (.bind (.call h) fun _ => .pure _) fun _ => .pure _

theorem only_info : c.info.Only A := .bind (only_request h) fun _ => .pure _

theorem only_balance : (c.balance address).Only A := .bind (only_request h) fun _ => .pure _

theorem only_transaction : (c.transaction id).Only A := .bind (only_request h) fun _ => .pure _

end Ripple.Client

/-! ## Account-based nodes -/

namespace Evm

variable {asset : String} {channel : Channel} (h : ∀ call, A ⟨channel, call⟩)
include h

theorem only_request {α : Type} {operation method : String} {params : List Json}
    {decoder : Decoder α} : (request asset operation channel method params decoder).Only A :=
  .bind (.call h) fun _ => .pure _

theorem only_chainState : (chainState asset channel).Only A := by
  refine .bind (only_request h) fun reply => ?_
  cases reply with
  | error e => exact .pure _
  | ok chain =>
    refine .bind (only_request h) fun reply => ?_
    cases reply with
    | error e => exact .pure _
    | ok block => cases block <;> exact .pure _

theorem only_locate : (locate asset channel id).Only A := by
  unfold locate
  cases FixedBytes.parse 32 id with
  | error e => exact .pure _
  | ok hash =>
    refine .bind (only_request h) fun reply => ?_
    cases reply with
    | error e => exact .pure _
    | ok found =>
      cases found with
      | none => exact .pure _
      | some t =>
        refine .bind (only_request h) fun reply => ?_
        cases reply <;> exact .pure _

omit h in
theorem Client.only_balance {c : Client} (h : ∀ call, A ⟨c.channel, call⟩) :
    (c.balance address).Only A := by
  unfold balance
  cases parseAddress address with
  | error e => exact .pure _
  | ok account => exact .bind (only_request h) fun _ => .pure _

omit h in
theorem Token.only_balance {t : Token} (h : ∀ call, A ⟨t.channel, call⟩) :
    (t.balance address).Only A := by
  unfold balance
  cases parseAddress address with
  | error e => exact .pure _
  | ok account => exact .bind (only_request h) fun _ => .pure _

end Evm

/-! ## Every adapter -/

namespace Adapter

variable {a : Adapter} {node : Talk.Node} {operation : Operation} {ask : Ask}

/-- The channels that an adapter has. -/
def channels : Adapter → List Channel
  | .bitcoin c => [c.link.ordinary, c.link.importing]
  | .ripple c => [c.channel]
  | .evm c => [c.channel]
  | .token t => [t.channel]

/-- Whether a call is made on one of these channels. -/
def Owns (a : Adapter) (ask : Ask) : Prop := ask.channel ∈ a.channels

/-- What an adapter can be asked to do. -/
inductive Operation where
  | info
  | balance (address : String)
  | transaction (id : String)
  | importing (address : String)

/-- The calls that an operation makes when nodes react in a certain way. -/
def asks (a : Adapter) (node : Talk.Node) : Operation → List Ask
  | .info => (a.info.run node 0).calls.map (·.1)
  | .balance address => ((a.balance address).run node 0).calls.map (·.1)
  | .transaction id => ((a.transaction id).run node 0).calls.map (·.1)
  | .importing address =>
    match a with
    | .bitcoin c => (c.importCalls node address).map (·.2)
    | _ => []

/-- The channel of every call that is no import. -/
def ordinary : Adapter → Channel
  | .bitcoin c => c.link.ordinary
  | .ripple c => c.channel
  | .evm c => c.channel
  | .token t => t.channel

theorem owns_ordinary (a : Adapter) (call : Call) : a.Owns ⟨a.ordinary, call⟩ := by
  cases a <;> exact List.mem_cons_self

theorem only_info (h : ∀ call, A ⟨a.ordinary, call⟩) : a.info.Only A := by
  cases a with
  | bitcoin c => exact Bitcoin.Client.only_info h
  | ripple c => exact Ripple.Client.only_info h
  | evm c => exact Evm.only_chainState h
  | token t => exact Evm.only_chainState h

theorem only_balance (h : ∀ call, A ⟨a.ordinary, call⟩) : (a.balance address).Only A := by
  cases a with
  | bitcoin c => exact Bitcoin.Client.only_balance h
  | ripple c => exact Ripple.Client.only_balance h
  | evm c => exact Evm.Client.only_balance h
  | token t => exact Evm.Token.only_balance h

theorem only_transaction (h : ∀ call, A ⟨a.ordinary, call⟩) : (a.transaction id).Only A := by
  cases a with
  | bitcoin c => exact Bitcoin.Client.only_transaction h
  | ripple c => exact Ripple.Client.only_transaction h
  | evm c => exact .bind (Evm.only_locate h) fun _ => .pure _
  | token t => exact .bind (Evm.only_locate h) fun _ => .pure _

/-- A look-up ends, whatever the node does, if its calls have a limit. -/
theorem transaction_ends (node : Talk.Node) (id : String) (h : a.ordinary.limit ≠ none) :
    ∃ result, ((a.client node).transaction id).ending = .returned result := by
  have honly : (a.transaction id).Only fun ask => ask.channel.limit ≠ none :=
    only_transaction fun _ => h
  obtain ⟨result, hresult⟩ := honly.exists_value
  exact ⟨result, Talk.Run.ending_job_iff.2 hresult⟩

/-- An adapter that is asked for the state of its chain asks its node. -/
theorem exists_ask_info (a : Adapter) (node : Talk.Node) : ∃ ask, ask ∈ a.asks node .info := by
  cases a <;> exact ⟨_, List.mem_map_of_mem Talk.mem_calls_ask⟩

/-- Every call of an adapter is made on a channel of its own. -/
theorem owns_of_mem_asks (h : ask ∈ a.asks node operation) : a.Owns ask := by
  cases operation with
  | info =>
    obtain ⟨call, hcall, rfl⟩ := List.mem_map.1 h
    exact (only_info a.owns_ordinary).of_mem_calls hcall
  | balance address =>
    obtain ⟨call, hcall, rfl⟩ := List.mem_map.1 h
    exact (only_balance a.owns_ordinary).of_mem_calls hcall
  | transaction id =>
    obtain ⟨call, hcall, rfl⟩ := List.mem_map.1 h
    exact (only_transaction a.owns_ordinary).of_mem_calls hcall
  | importing address =>
    cases a with
    | bitcoin c =>
      obtain ⟨call, hcall, rfl⟩ := List.mem_map.1 h
      rw [Owns, Bitcoin.Client.channel_of_mem_importCalls hcall]
      exact List.mem_cons_of_mem _ List.mem_cons_self
    | ripple c => cases h
    | evm c => cases h
    | token t => cases h

end Adapter

end AssetOracle
