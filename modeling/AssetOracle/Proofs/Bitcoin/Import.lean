import Mathlib
import AssetOracle.Policy.Race
import AssetOracle.Proofs.Rpc.Reply
import AssetOracle.Registry.Bootstrap

/-!
# Imports of addresses

What an import does, from the reactions of the node to the result of the caller. One attempt is
one call on the channel for imports, which has no limit of its own, so it is the slow operation
alone that decides whether a reaction comes in time (`ends_importOnce`). The import makes a second
attempt if the first one fails, and ends with the last one (`importAddress_of_openLink`).

An attempt succeeds if the reply is an envelope without an error or one that says that the wallet
is busy, whatever the status (`importOnce_isOk_iff`). So a failed request whose body happens to be
an object counts as an import that was made (`importAddress_false_success`).
-/

namespace AssetOracle.Bitcoin.Client

open Rpc (Talk Ask Reaction Reply Credentials)

variable {c : Client} {node : Talk.Node} {address : String} {n : Nat}

/-- The call that is made by every attempt at an import. -/
def importAsk (c : Client) (address : String) : Ask :=
  ⟨c.link.importing, ⟨"importaddress", [.text address, .text "", .bool true]⟩⟩

/-- How an attempt at an import ends, and after what time, when the node reacts to it: as its call
    ends if that is in time, and with a timeout if not. -/
inductive Ends (c : Client) : Reaction → NodeResult OperationState → Duration → Prop where
  | completed {after : Duration} {r : Reply} {value : Json} (hin : after < c.importing.limit)
      (houtcome : r.outcome = .ok value) : Ends c (.reply after r) (.ok .completed) after
  | busy {after : Duration} {r : Reply} {message : String} (hin : after < c.importing.limit)
      (houtcome : r.outcome = .error (.refused (-4) message)) :
    Ends c (.reply after r) (.ok .alreadyInProgress) after
  | failed {after : Duration} {r : Reply} {failure : Rpc.Failure}
      (hin : after < c.importing.limit) (houtcome : r.outcome = .error failure)
      (hbusy : ∀ message, failure ≠ .refused (-4) message) :
    Ends c (.reply after r) (.error (.failed c.asset importOperation (.rpc failure))) after
  | broken {after : Duration} {reaction : Reaction} (hin : after < c.importing.limit)
      (hbroken : reaction = .drop after ∨ reaction = .unreachable after) :
    Ends c reaction
      (.error (.failed c.asset importOperation
        (.rpc (.transport (Rpc.requestUrl c.link.importing.endpoint))))) after
  | late {reaction : Reaction}
      (hlate : ∀ after, reaction.duration? = some after → c.importing.limit ≤ after) :
    Ends c reaction (.error (.timeout importOperation c.importing.limit)) c.importing.limit

theorem Ends.elapsed_le {reaction : Reaction} {result : NodeResult OperationState}
    {elapsed : Duration} (h : Ends c reaction result elapsed) : elapsed ≤ c.importing.limit := by
  cases h with
  | completed hin _ => exact Nat.le_of_lt hin
  | busy hin _ => exact Nat.le_of_lt hin
  | failed hin _ _ => exact Nat.le_of_lt hin
  | broken hin _ => exact Nat.le_of_lt hin
  | late _ => exact Nat.le_refl _

theorem Ends.eq_of_late {reaction : Reaction} {result : NodeResult OperationState}
    {elapsed : Duration} (h : Ends c reaction result elapsed)
    (hlate : ∀ after, reaction.duration? = some after → c.importing.limit ≤ after) :
    result = .error (.timeout importOperation c.importing.limit) ∧
      elapsed = c.importing.limit := by
  cases h with
  | completed hin _ => exact absurd hin (Nat.not_lt.2 (hlate _ rfl))
  | busy hin _ => exact absurd hin (Nat.not_lt.2 (hlate _ rfl))
  | failed hin _ _ => exact absurd hin (Nat.not_lt.2 (hlate _ rfl))
  | broken hin hbroken =>
    rcases hbroken with rfl | rfl <;> exact absurd hin (Nat.not_lt.2 (hlate _ rfl))
  | late _ => exact ⟨rfl, rfl⟩

theorem Ends.eq_of_busy {after : Duration} {r : Reply} {message : String}
    {result : NodeResult OperationState} {elapsed : Duration}
    (h : Ends c (.reply after r) result elapsed) (hin : after < c.importing.limit)
    (houtcome : r.outcome = .error (.refused (-4) message)) :
    result = .ok .alreadyInProgress ∧ elapsed = after := by
  cases h with
  | completed _ hother => rw [houtcome] at hother; cases hother
  | busy _ _ => exact ⟨rfl, rfl⟩
  | failed _ hother hbusy =>
    rw [houtcome] at hother
    exact absurd (Except.error.inj hother).symm (hbusy message)
  | broken _ hbroken => rcases hbroken with hbroken | hbroken <;> cases hbroken
  | late hlate => exact absurd hin (Nat.not_lt.2 (hlate after rfl))

/-! ## One attempt -/

theorem run_importCall :
    (c.importCall address).run node n =
      match (node n (c.importAsk address)).answer c.link.importing.limit with
      | none => ⟨none, [(c.importAsk address, node n (c.importAsk address))], .zero⟩
      | some (answer, after) =>
        ⟨some (c.importState (answer.decode Decoder.any c.link.importing.endpoint)),
          [(c.importAsk address, node n (c.importAsk address))], after⟩ := by
  unfold importCall watch Rpc.call Talk.call
  simp only [bind, Talk.bind, pure, Talk.run]
  rfl

/-- Every attempt makes the one call. -/
theorem calls_importCall :
    ((c.importCall address).run node n).calls =
      [(c.importAsk address, node n (c.importAsk address))] := by
  rw [run_importCall]
  cases (node n (c.importAsk address)).answer c.link.importing.limit <;> rfl

theorem job_importCall {answer : Rpc.Answer} {after : Duration}
    (hanswer : (node n (c.importAsk address)).answer c.link.importing.limit =
      some (answer, after)) :
    ((c.importCall address).run node n).job =
      ⟨some after,
        .returned (c.importState (answer.decode Decoder.any c.link.importing.endpoint))⟩ := by
  rw [run_importCall, hanswer]
  rfl

/-- A channel without a limit does not give up on a call. -/
theorem duration_job_importCall (hlimit : c.link.importing.limit = none) :
    ((c.importCall address).run node n).job.duration =
      (node n (c.importAsk address)).duration? := by
  rw [run_importCall, hlimit]
  cases node n (c.importAsk address) <;> rfl

theorem importOnce_of_answer {answer : Rpc.Answer} {after : Duration}
    (hanswer : (node n (c.importAsk address)).answer c.link.importing.limit =
      some (answer, after)) (hin : after < c.importing.limit) :
    (c.importOnce node address n).result =
        c.importState (answer.decode Decoder.any c.link.importing.endpoint) ∧
      (c.importOnce node address n).elapsed = after := by
  have hjob := job_importCall hanswer
  have hduration : ((c.importCall address).run node n).job.duration = some after := by rw [hjob]
  rw [importOnce, Race.run_of_endsWithin hduration hin, hjob]
  exact ⟨rfl, rfl⟩

theorem importState_refused {code : Int} {message : String} :
    c.importState (.error (.refused code message)) =
      if code = -4 then .ok .alreadyInProgress
      else .error (.failed c.asset importOperation (.rpc (.refused code message))) := rfl

theorem importState_error {failure : Rpc.Failure}
    (hbusy : ∀ message, failure ≠ .refused (-4) message) :
    c.importState (.error failure) = .error (.failed c.asset importOperation (.rpc failure)) := by
  cases failure with
  | refused code message =>
    have hcode : code ≠ -4 := fun hcode => hbusy message (by rw [hcode])
    rw [importState_refused, if_neg hcode]
  | transport url => rfl
  | status status body => rfl
  | undecodable stage error => rfl

/-- An attempt whose reply comes in time ends as the reply says. -/
theorem ends_of_reply {after : Duration} {r : Reply} (url : Url) (hin : after < c.importing.limit) :
    Ends c (.reply after r) (c.importState (Rpc.Answer.decode Decoder.any url (.reply r)))
      after := by
  cases houtcome : r.outcome with
  | ok value =>
    obtain ⟨kept, hkept⟩ := Rpc.Answer.decode_any_of_outcome_ok url houtcome
    rw [hkept]
    exact .completed hin houtcome
  | error failure =>
    rw [Rpc.Answer.decode_of_outcome_error houtcome]
    by_cases hbusy : ∃ message, failure = .refused (-4) message
    · obtain ⟨message, rfl⟩ := hbusy
      rw [importState_refused, if_pos rfl]
      exact .busy hin houtcome
    · have hother : ∀ message, failure ≠ .refused (-4) message :=
        fun message heq => hbusy ⟨message, heq⟩
      rw [importState_error hother]
      exact .failed hin houtcome hother

/-- An attempt whose answer comes in time ends as the answer says. -/
theorem ends_of_answer {reaction : Reaction} {answer : Rpc.Answer} {after : Duration}
    (hanswer : reaction.answer none = some (answer, after)) (hin : after < c.importing.limit) :
    Ends c reaction
      (c.importState (answer.decode Decoder.any c.link.importing.endpoint)) after := by
  cases reaction with
  | reply d r =>
    obtain ⟨rfl, rfl⟩ : .reply r = answer ∧ d = after :=
      Prod.mk.inj (Option.some.inj hanswer)
    exact ends_of_reply _ hin
  | drop d =>
    obtain ⟨rfl, rfl⟩ : .broken = answer ∧ d = after := Prod.mk.inj (Option.some.inj hanswer)
    exact .broken hin (.inl rfl)
  | unreachable d =>
    obtain ⟨rfl, rfl⟩ : .broken = answer ∧ d = after := Prod.mk.inj (Option.some.inj hanswer)
    exact .broken hin (.inr rfl)
  | stall => cases hanswer

theorem exists_answer_of_duration {reaction : Reaction} {after : Duration}
    (h : reaction.duration? = some after) :
    ∃ answer, reaction.answer none = some (answer, after) := by
  cases reaction with
  | reply d r =>
    obtain rfl : d = after := Option.some.inj h
    exact ⟨.reply r, rfl⟩
  | drop d =>
    obtain rfl : d = after := Option.some.inj h
    exact ⟨.broken, rfl⟩
  | unreachable d =>
    obtain rfl : d = after := Option.some.inj h
    exact ⟨.broken, rfl⟩
  | stall => cases h

/-- The channel for imports has no limit, so the limit of the operation is the only one. -/
theorem ends_importOnce (hlimit : c.link.importing.limit = none)
    (hname : c.importing.name = importOperation) :
    Ends c (node n (c.importAsk address)) (c.importOnce node address n).result
      (c.importOnce node address n).elapsed := by
  by_cases hin : ∃ after, (node n (c.importAsk address)).duration? = some after ∧
      after < c.importing.limit
  · obtain ⟨after, hduration, hin⟩ := hin
    obtain ⟨answer, hanswer⟩ := exists_answer_of_duration hduration
    obtain ⟨hresult, helapsed⟩ := importOnce_of_answer (by rw [hlimit]; exact hanswer) hin
    rw [hresult, helapsed]
    exact ends_of_answer hanswer hin
  · have hlate : ∀ after, (node n (c.importAsk address)).duration? = some after →
        c.importing.limit ≤ after :=
      fun after hduration => Nat.not_lt.1 fun hlt => hin ⟨after, hduration, hlt⟩
    have hjob : ∀ after, ((c.importCall address).run node n).job.duration = some after →
        c.importing.limit ≤ after := by
      rw [duration_job_importCall hlimit]
      exact hlate
    rw [importOnce, Race.run_of_late hjob, hname]
    exact .late hlate

/-! ## The two attempts -/

/-- An import makes its second attempt if the first one fails. -/
theorem importAddress_eq :
    c.importAddress node address =
      if (c.importOnce node address 0).result.isOk then .once (c.importOnce node address 0)
      else .after (c.importOnce node address 0) (.once (c.importOnce node address 1)) := by
  unfold importAddress converge
  simp only [importAttempts, attemptFrom]
  cases (c.importOnce node address 0).result <;> rfl

theorem result_importAddress :
    (c.importAddress node address).result =
      if (c.importOnce node address 0).result.isOk then (c.importOnce node address 0).result
      else (c.importOnce node address 1).result := by
  rw [importAddress_eq]
  split <;> rfl

theorem importCalls_eq :
    c.importCalls node address =
      (.zero, c.importAsk address) ::
        if (c.importOnce node address 0).result.isOk then []
        else [((c.importOnce node address 0).elapsed, c.importAsk address)] := by
  unfold importCalls
  rw [importAddress_eq]
  split
  · simp [Converged.starts, Converged.startsFrom, Converged.once, calls_importCall]
  · have hstart : Duration.zero + (c.importOnce node address 0).elapsed =
        (c.importOnce node address 0).elapsed := congrArg Duration.mk (Nat.zero_add _)
    simp [Converged.starts, Converged.startsFrom, Converged.once, Converged.after,
      calls_importCall, hstart]

theorem elapsed_importAddress_le
    (h : ∀ n, (c.importOnce node address n).elapsed ≤ c.importing.limit) :
    (c.importAddress node address).elapsed ≤ c.importing.limit + c.importing.limit := by
  rw [importAddress_eq]
  split
  · exact Nat.le_trans (h 0) (Nat.le_add_right _ _)
  · exact Nat.add_le_add (h 0) (h 1)

/-- The channel for imports is the same for every limit of the ordinary channel. -/
theorem openLink_eq {limit : Duration} {number : Nat} {endpoint : String}
    {credentials : Option Credentials} {link : Link}
    (h : Bootstrap.openLink limit number endpoint credentials = .ok link) :
    link.importing.limit = none ∧ ∀ other, Bootstrap.openLink other number endpoint credentials =
      .ok ⟨{ link.ordinary with limit := some other }, link.importing⟩ := by
  unfold Bootstrap.openLink Rpc.Channel.open? at h ⊢
  cases hurl : Url.parse? endpoint with
  | none => rw [hurl] at h; cases h
  | some url =>
    rw [hurl] at h
    obtain rfl := Except.ok.inj h
    exact ⟨rfl, fun other => rfl⟩

/-- An import from end to end, on the channels that are opened for a node. Each attempt ends as
    its own call does if that is over before the limit, where a busy wallet counts as a success,
    and with a timeout at the limit if it is not. The import ends as its first attempt if that
    succeeds and as its second one otherwise, sends one request or two, the second when the first
    attempt is over, and takes at most twice the limit; for an adapter it is the import's job. What
    the ordinary channel waits for plays no part. -/
theorem importAddress_of_openLink (c : Client) (address : String) (node : Talk.Node)
    {rpcLimit : Duration} {number : Nat} {endpoint : String} {credentials : Option Credentials}
    (hlink : Bootstrap.openLink rpcLimit number endpoint credentials = .ok c.link)
    (hname : c.importing.name = importOperation) :
    (∀ n, Ends c (node n (c.importAsk address)) (c.importOnce node address n).result
        (c.importOnce node address n).elapsed) ∧
      (c.importAddress node address).result =
        (if (c.importOnce node address 0).result.isOk then (c.importOnce node address 0).result
          else (c.importOnce node address 1).result) ∧
      c.importCalls node address =
        ((.zero, c.importAsk address) ::
          if (c.importOnce node address 0).result.isOk then []
          else [((c.importOnce node address 0).elapsed, c.importAsk address)]) ∧
      (c.importAddress node address).elapsed ≤ c.importing.limit + c.importing.limit ∧
      (∃ importer, ((Adapter.bitcoin c).client node).importer = some importer ∧
        (importer address).job = ⟨some (c.importAddress node address).elapsed,
          .returned ((c.importAddress node address).result.map fun _ => ())⟩) ∧
      ∀ other, ∃ link, Bootstrap.openLink other number endpoint credentials = .ok link ∧
        ({ c with link }).importAddress node address = c.importAddress node address ∧
        ({ c with link }).importCalls node address = c.importCalls node address := by
  obtain ⟨hlimit, hother⟩ := openLink_eq hlink
  have hends (n : Nat) := @ends_importOnce c node address n hlimit hname
  refine ⟨hends, result_importAddress, importCalls_eq,
    elapsed_importAddress_le fun n => (hends n).elapsed_le, ⟨_, rfl, rfl⟩, fun other => ?_⟩
  exact ⟨_, hother other, rfl, rfl⟩

/-- The reply of a node with a busy wallet. -/
def busyReply : Reply :=
  ⟨500, Text.Utf8.encode "\x7b\"error\":\x7b\"code\":-4,\"message\":\"\"\x7d\x7d"⟩

/-- A node that never answers the first attempt and has a busy wallet at the second. -/
def stallThenBusy : Talk.Node := fun n _ =>
  if n = 0 then .stall else .reply (.ofMillis 5) busyReply

/-- There is a client that waits longer for imports than for other replies. -/
theorem exists_client : ∃ c : Client, c.importing = ⟨importOperation, .ofMillis 100⟩ ∧
    Bootstrap.openLink (.ofMillis 10) 0 "http://node" none = .ok c.link := by
  obtain ⟨link, hlink⟩ :
      ∃ link, Bootstrap.openLink (.ofMillis 10) 0 "http://node" none = .ok link := ⟨_, by cbv⟩
  exact ⟨⟨"BTC", link, ⟨importOperation, .ofMillis 100⟩⟩, rfl, hlink⟩

theorem importAddress_stallThenBusy :
    ∃ c : Client, c.importing = ⟨importOperation, .ofMillis 100⟩ ∧
      Bootstrap.openLink (.ofMillis 10) 0 "http://node" none = .ok c.link ∧
      (c.importAddress stallThenBusy "x").result = .ok .alreadyInProgress ∧
      c.importCalls stallThenBusy "x" =
        [(.zero, c.importAsk "x"), (.ofMillis 100, c.importAsk "x")] := by
  obtain ⟨c, himporting, hlink⟩ := exists_client
  have hname : c.importing.name = importOperation := by rw [himporting]
  obtain ⟨hends, hresult, hcalls, -⟩ :=
    importAddress_of_openLink c "x" stallThenBusy hlink hname
  obtain ⟨hfirst, hstart⟩ := (hends 0).eq_of_late fun after hafter => by cases hafter
  have hin : Duration.ofMillis 5 < c.importing.limit := by rw [himporting]; decide
  have hbusy : busyReply.outcome = .error (.refused (-4) "") := by cbv
  obtain ⟨hsecond, -⟩ := (hends 1).eq_of_busy hin hbusy
  rw [hfirst] at hresult hcalls
  rw [hsecond] at hresult
  rw [hstart, himporting] at hcalls
  exact ⟨c, himporting, hlink, hresult, hcalls⟩

/-! ## What counts as a success -/

/-- Whether a reply carries the error of a busy wallet. -/
def SaysBusy (r : Reply) : Prop := ∃ e message, r.Carries e ∧ e.error = some ⟨-4, message⟩

/-- Whether a reply is an envelope without an error. -/
def SaysNoError (r : Reply) : Prop := ∃ e, r.Carries e ∧ e.error = none

theorem saysBusy_iff {r : Reply} :
    SaysBusy r ↔ ∃ message, r.outcome = .error (.refused (-4) message) := by
  simp only [Reply.outcome_eq_refused_iff]
  exact exists_comm

theorem saysNoError_iff {r : Reply} : SaysNoError r ↔ ∃ value, r.outcome = .ok value :=
  Reply.outcome_isOk_iff.symm

/-- An attempt succeeds if a reply comes in time that is an envelope with the right content; its
    status is not asked for. -/
theorem Ends.isOk_iff {reaction : Reaction} {result : NodeResult OperationState}
    {elapsed : Duration} (h : Ends c reaction result elapsed) :
    result.isOk = true ↔ ∃ after r, reaction = .reply after r ∧ after < c.importing.limit ∧
      (SaysBusy r ∨ SaysNoError r) := by
  simp only [saysBusy_iff, saysNoError_iff]
  constructor
  · intro hok
    cases h with
    | completed hin houtcome => exact ⟨_, _, rfl, hin, .inr ⟨_, houtcome⟩⟩
    | busy hin houtcome => exact ⟨_, _, rfl, hin, .inl ⟨_, houtcome⟩⟩
    | failed hin houtcome hbusy => cases hok
    | broken hin hbroken => cases hok
    | late hlate => cases hok
  · rintro ⟨after, r, rfl, hin, hsays⟩
    cases h with
    | completed _ _ => rfl
    | busy _ _ => rfl
    | failed _ houtcome hbusy =>
      rcases hsays with ⟨message, hmessage⟩ | ⟨value, hvalue⟩
      · rw [houtcome] at hmessage
        exact absurd (Except.error.inj hmessage) (hbusy message)
      · rw [houtcome] at hvalue
        cases hvalue
    | broken _ hbroken => rcases hbroken with hbroken | hbroken <;> cases hbroken
    | late hlate => exact absurd hin (Nat.not_lt.2 (hlate after rfl))

theorem isOk_importAddress_iff :
    (c.importAddress node address).result.isOk = true ↔
      ∃ n < (c.importAddress node address).made, (c.importOnce node address n).result.isOk := by
  rw [importAddress_eq]
  by_cases hfirst : (c.importOnce node address 0).result.isOk = true
  · rw [if_pos hfirst]
    exact ⟨fun _ => ⟨0, Nat.zero_lt_one, hfirst⟩, fun _ => hfirst⟩
  · rw [if_neg hfirst]
    constructor
    · intro hsecond
      exact ⟨1, Nat.one_lt_two, hsecond⟩
    · rintro ⟨n, hn, hok⟩
      have hn : n < 2 := hn
      match n with
      | 0 => exact absurd hok hfirst
      | 1 => exact hok

/-- When an import counts as made, for a client on the channels that are opened for a node. It
    does if one of the attempts gets a reply in time that is an envelope without an error, or with
    that of a busy wallet. So a failed request counts as well if its body is an envelope without
    an error, such as any object with neither a result nor an error, and a caller that takes a
    success for a good status or a busy wallet is wrong exactly if an attempt gets such a reply
    in time and no attempt gets a better one. -/
theorem importAddress_isOk_iff (c : Client) (address : String) (node : Talk.Node)
    {rpcLimit : Duration} {number : Nat} {endpoint : String} {credentials : Option Credentials}
    (hlink : Bootstrap.openLink rpcLimit number endpoint credentials = .ok c.link)
    (hname : c.importing.name = importOperation) :
    ((c.importAddress node address).result.isOk = true ↔
        ∃ n < (c.importAddress node address).made, ∃ after r,
          node n (c.importAsk address) = .reply after r ∧ after < c.importing.limit ∧
          (SaysBusy r ∨ SaysNoError r)) ∧
      (∀ n after r, node n (c.importAsk address) = .reply after r → r.isSuccess = false →
        ¬SaysBusy r → ((c.importOnce node address n).result.isOk = true ↔
          after < c.importing.limit ∧ SaysNoError r)) ∧
      (∀ r members, Json.Source.ofBytes r.body = ⟨.object members none, false⟩ →
        (∀ member ∈ members, Document.Unnamed
          [.optional "result" Decoder.any, .optional "error" Rpc.Refusal.decode] member) →
        SaysNoError r) ∧
      (((c.importAddress node address).result.isOk = true →
          ∃ n < (c.importAddress node address).made, ∃ after r,
            node n (c.importAsk address) = .reply after r ∧
            (r.isSuccess = true ∨ SaysBusy r)) ↔
        ¬∃ n < (c.importAddress node address).made, ∃ after r,
          node n (c.importAsk address) = .reply after r ∧ after < c.importing.limit ∧
          SaysNoError r ∧ ∀ m < (c.importAddress node address).made, ∀ after r,
            node m (c.importAsk address) = .reply after r →
            r.isSuccess = false ∧ ¬SaysBusy r) := by
  obtain ⟨hlimit, -⟩ := openLink_eq hlink
  have honce (n : Nat) := (@ends_importOnce c node address n hlimit hname).isOk_iff
  have hall : (c.importAddress node address).result.isOk = true ↔
      ∃ n < (c.importAddress node address).made, ∃ after r,
        node n (c.importAsk address) = .reply after r ∧ after < c.importing.limit ∧
        (SaysBusy r ∨ SaysNoError r) := by
    rw [isOk_importAddress_iff]
    exact exists_congr fun n => and_congr_right fun _ => honce n
  refine ⟨hall, ?_, ?_, ?_⟩
  · intro n after r hreaction _ hbusy
    rw [honce, hreaction]
    constructor
    · rintro ⟨after', r', heq, hin, hsays⟩
      cases heq
      exact ⟨hin, hsays.resolve_left hbusy⟩
    · rintro ⟨hin, hsays⟩
      exact ⟨after, r, rfl, hin, .inr hsays⟩
  · intro r members hsource hmembers
    exact ⟨_, Reply.carries_blank_of_object hsource hmembers, rfl⟩
  · constructor
    · rintro hsound ⟨n, hn, after, r, hreaction, hin, hsays, hbad⟩
      obtain ⟨m, hm, after', r', hreaction', hgood⟩ :=
        hsound (hall.2 ⟨n, hn, after, r, hreaction, hin, .inr hsays⟩)
      obtain ⟨hstatus, hbusy⟩ := hbad m hm after' r' hreaction'
      rcases hgood with hgood | hgood
      · rw [hstatus] at hgood
        cases hgood
      · exact hbusy hgood
    · intro hnone hok
      obtain ⟨n, hn, after, r, hreaction, hin, hsays⟩ := hall.1 hok
      rcases hsays with hbusy | hblank
      · exact ⟨n, hn, after, r, hreaction, .inr hbusy⟩
      · refine Classical.byContradiction fun hsound => hnone ?_
        refine ⟨n, hn, after, r, hreaction, hin, hblank, fun m hm after r hreaction => ?_⟩
        refine ⟨?_, fun hbusy => hsound ⟨m, hm, after, r, hreaction, .inr hbusy⟩⟩
        cases hsuccess : r.isSuccess with
        | false => rfl
        | true => exact absurd ⟨m, hm, after, r, hreaction, .inl hsuccess⟩ hsound

/-- A node behind a proxy that replies to everything with a failure and an empty object. -/
def blankNode : Talk.Node := fun _ _ => .reply (.ofMillis 5) ⟨503, [0x7B, 0x7D]⟩

theorem carries_blank : (⟨503, [0x7B, 0x7D]⟩ : Reply).Carries ⟨none, none⟩ := by
  have hsource : Json.Source.ofBytes [0x7B, 0x7D] = ⟨.object [] none, false⟩ := by cbv
  exact Reply.carries_blank_of_object hsource (by simp)

theorem not_saysBusy_blank : ¬SaysBusy ⟨503, [0x7B, 0x7D]⟩ := by
  rintro ⟨e, message, hcarries, hbusy⟩
  rw [Reply.Carries, carries_blank] at hcarries
  cases hcarries
  cases hbusy

theorem importOnce_isOk_blankNode :
    ∃ c : Client, Bootstrap.openLink (.ofMillis 10) 0 "http://node" none = .ok c.link ∧
      c.importing.name = importOperation ∧
      ∀ n, (c.importOnce blankNode "x" n).result.isOk = true := by
  obtain ⟨c, himporting, hlink⟩ := exists_client
  have hname : c.importing.name = importOperation := by rw [himporting]
  have hin : Duration.ofMillis 5 < c.importing.limit := by rw [himporting]; decide
  obtain ⟨-, honce, -⟩ := importAddress_isOk_iff c "x" blankNode hlink hname
  refine ⟨c, hlink, hname, fun n => ?_⟩
  exact (honce n _ _ rfl rfl not_saysBusy_blank).2 ⟨hin, _, carries_blank, rfl⟩

/-- A failed request counts as an import that was made, although no reply is a success or has the
    error of a busy wallet. -/
theorem importAddress_false_success :
    ∃ c : Client, Bootstrap.openLink (.ofMillis 10) 0 "http://node" none = .ok c.link ∧
      c.importing.name = importOperation ∧
      (c.importAddress blankNode "x").result.isOk = true ∧
      ∀ n after r, blankNode n (c.importAsk "x") = .reply after r →
        r.isSuccess = false ∧ ¬SaysBusy r := by
  obtain ⟨c, himporting, hlink⟩ := exists_client
  have hname : c.importing.name = importOperation := by rw [himporting]
  have hin : Duration.ofMillis 5 < c.importing.limit := by rw [himporting]; decide
  have hends := @ends_importOnce c blankNode "x" 0 (openLink_eq hlink).1 hname
  have hok : (c.importOnce blankNode "x" 0).result.isOk = true :=
    hends.isOk_iff.2 ⟨_, _, rfl, hin, .inr ⟨_, carries_blank, rfl⟩⟩
  refine ⟨c, hlink, hname, ?_, ?_⟩
  · rw [result_importAddress, if_pos hok]
    exact hok
  · intro n after r hreaction
    cases hreaction
    exact ⟨rfl, not_saysBusy_blank⟩

end AssetOracle.Bitcoin.Client
