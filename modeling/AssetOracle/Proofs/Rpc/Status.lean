import Mathlib
import AssetOracle.Proofs.Document.Faults
import AssetOracle.Proofs.Rpc.Reply
import AssetOracle.Proofs.Rpc.Talk

/-!
# Failed replies

The status of a failed reply is to be reported unless its body is a response, that is a JSON object
with a result or an error. The reader of envelopes accepts more than responses, since both members
may be left out and since the members may be given by position: any object with neither of them,
and an array of up to two items (`Reply.carries_iff_misreadAs`). A call reports the status exactly
of the failed replies whose bodies are not accepted so (`call_of_failed`).
-/

namespace AssetOracle

/-- Whether a document is an object with a member of a name. -/
def Document.Has (d : Document) (name : String) : Prop :=
  match d with
  | .object members _ => ∃ item, (.ok name, item) ∈ members
  | _ => False

namespace Rpc

open Talk (Node)

/-- What a JSON document that is no response is taken for: an object for an envelope without a
    result and without an error, and an array for one whose members are its items. -/
inductive Envelope.MisreadFrom : Document → Envelope → Prop where
  | object {members : List (Except Fault String × Document)}
      (hnames : ∀ member ∈ members, ∃ name, member.1 = .ok name) :
    MisreadFrom (.object members none) ⟨none, none⟩
  | noItem : MisreadFrom (.array [] none) ⟨none, none⟩
  | oneItem {item : Document} {result : Option Json}
      (hresult : Decoder.optional Decoder.any .jsonText item = .ok result) :
    MisreadFrom (.array [item] none) ⟨result, none⟩
  | twoItems {item other : Document} {result : Option Json} {error : Option Refusal}
      (hresult : Decoder.optional Decoder.any .jsonText item = .ok result)
      (herror : Decoder.optional Refusal.decode .jsonText other = .ok error) :
    MisreadFrom (.array [item, other] none) ⟨result, error⟩

namespace Reply

/-- The body of a reply as JSON text. -/
def source (r : Reply) : Json.Source := .ofBytes r.body

/-- Whether the body of a reply is a response: JSON, namely an object with a result or an error. -/
def Responds (r : Reply) : Prop :=
  r.source.IsJson ∧ (r.source.root.Has "result" ∨ r.source.root.Has "error")

/-- Whether the body of a reply is JSON that is no response and is taken for this envelope. -/
def MisreadAs (r : Reply) (e : Envelope) : Prop :=
  r.source.IsJson ∧ ¬r.Responds ∧ Envelope.MisreadFrom r.source.root e

end Reply

variable {α : Type} {r : Reply} {e : Envelope} {decoder : Decoder α} {channel : Channel}
  {method : String} {params : List Json} {node : Node} {n : Nat} {after : Duration}

theorem thorough_refusal : Refusal.decode.Thorough := by
  apply Decoder.Thorough.map
  apply Decoder.thorough_record
  exact List.forall_mem_cons.2 ⟨Decoder.thorough_integer _ _ _,
    List.forall_mem_singleton.2 Decoder.thorough_text⟩

theorem thorough_envelope : Envelope.decode.Thorough := by
  apply Decoder.Thorough.map
  apply Decoder.thorough_record
  exact List.forall_mem_cons.2 ⟨Decoder.thorough_any.optional,
    List.forall_mem_singleton.2 thorough_refusal.optional⟩

theorem Reply.Carries.isJson (h : r.Carries e) : r.source.IsJson :=
  Json.Source.isJson_of_decode thorough_envelope h

/-- An object that has neither member is accepted if all its names can be read. -/
theorem Envelope.misreadFrom_of_object {members : List (Except Fault String × Document)}
    {cut : Option Fault} (hresult : ¬(Document.object members cut).Has "result")
    (herror : ¬(Document.object members cut).Has "error")
    (h : Envelope.decode .jsonText (.object members cut) = .ok e) :
    MisreadFrom (.object members cut) e := by
  obtain ⟨row, hrow, rfl⟩ := Result.map_eq_ok_iff.1 h
  obtain ⟨slots, hslots, hrow⟩ := Result.bind_eq_ok_iff.1 hrow
  have hnone : ∀ f ∈ [Field.optional "result" Decoder.any, Field.optional "error" Refusal.decode],
      ∀ d, (.ok f.name, d) ∉ members :=
    List.forall_mem_cons.2 ⟨fun d hd => hresult ⟨d, hd⟩,
      List.forall_mem_singleton.2 fun d hd => herror ⟨d, hd⟩⟩
  obtain ⟨rfl, rfl, hunnamed⟩ := Decoder.unnamed_of_members hnone hslots
  obtain rfl := Except.ok.inj hrow
  apply MisreadFrom.object
  intro member hmember
  obtain ⟨name, hname, -⟩ := hunnamed member hmember
  exact ⟨name, hname⟩

/-- An array is accepted if its items are, in order, a result and an error. -/
theorem Envelope.misreadFrom_of_array {items : List Document} {cut : Option Fault}
    (h : Envelope.decode .jsonText (.array items cut) = .ok e) :
    MisreadFrom (.array items cut) e := by
  obtain ⟨row, hrow, rfl⟩ := Result.map_eq_ok_iff.1 h
  obtain ⟨⟨values, surplus⟩, hvalues, hsurplus⟩ := Result.bind_eq_ok_iff.1 hrow
  match items, cut with
  | [], some fault => cases hvalues
  | [], none =>
    cases hvalues
    cases hsurplus
    exact .noItem
  | item :: more, cut =>
    obtain ⟨result, hresult, hvalues⟩ := Result.bind_eq_ok_iff.1 hvalues
    have hresult := Result.mapError_eq_ok_iff.1 hresult
    match more, cut with
    | [], some fault => cases hvalues
    | [], none =>
      cases hvalues
      cases hsurplus
      exact .oneItem hresult
    | [other], cut =>
      obtain ⟨⟨rest, left⟩, hrest, hvalues⟩ := Result.bind_eq_ok_iff.1 hvalues
      obtain ⟨error, herror, hrest⟩ := Result.bind_eq_ok_iff.1 hrest
      cases hrest
      cases hvalues
      cases cut with
      | some fault => cases hsurplus
      | none =>
        cases hsurplus
        exact .twoItems hresult (Result.mapError_eq_ok_iff.1 herror)
    | other :: third :: more, cut =>
      obtain ⟨⟨rest, left⟩, hrest, hvalues⟩ := Result.bind_eq_ok_iff.1 hvalues
      obtain ⟨error, -, hrest⟩ := Result.bind_eq_ok_iff.1 hrest
      cases hrest
      cases hvalues
      cases hsurplus

/-- An object that has neither member is accepted as an empty envelope. -/
theorem Envelope.decode_of_misreadFrom_object {members : List (Except Fault String × Document)}
    {cut : Option Fault} (hresult : ¬(Document.object members cut).Has "result")
    (herror : ¬(Document.object members cut).Has "error")
    (hskip : (Document.object members cut).skipFault = none)
    (h : MisreadFrom (.object members cut) e) :
    Envelope.decode .jsonText (.object members cut) = .ok e := by
  cases h with
  | object hnames =>
    have hunnamed : ∀ member ∈ members, Document.Unnamed
        [.optional "result" Decoder.any, .optional "error" Refusal.decode] member := by
      intro member hmember
      obtain ⟨name, hname⟩ := hnames member hmember
      refine ⟨name, hname, ?_, Document.skipFault_of_mem hskip member hmember⟩
      refine List.forall_mem_cons.2 ⟨?_, List.forall_mem_singleton.2 ?_⟩
      · rintro rfl
        exact hresult ⟨member.2, hname ▸ hmember⟩
      · rintro rfl
        exact herror ⟨member.2, hname ▸ hmember⟩
    simp only [decode, Decoder.map, Decoder.record, Decoder.recordOfMembers,
      Decoder.members_eq_of_unnamed hunnamed]
    rfl

/-- An array of items that fit is accepted. -/
theorem Envelope.decode_of_misreadFrom_array {items : List Document} {cut : Option Fault}
    (h : MisreadFrom (.array items cut) e) :
    Envelope.decode .jsonText (.array items cut) = .ok e := by
  cases h with
  | noItem => rfl
  | oneItem hresult =>
    simp only [decode, Decoder.map, Decoder.record, Decoder.recordOfItems, Decoder.row,
      Field.optional, Field.withDefault, hresult]
    rfl
  | twoItems hresult herror =>
    simp only [decode, Decoder.map, Decoder.record, Decoder.recordOfItems, Decoder.row,
      Field.optional, Field.withDefault, hresult, herror]
    rfl

theorem Reply.carries_iff :
    r.Carries e ↔
      Envelope.decode .jsonText r.source.root = .ok e ∧ r.source.trailing = false :=
  Json.Source.decode_eq_ok_iff

/-- Of the bodies that are no responses, those are accepted that can be misread. -/
theorem Reply.carries_iff_misreadAs (hnone : ¬r.Responds) : r.Carries e ↔ r.MisreadAs e := by
  have hhas (hjson : r.source.IsJson) :
      ¬r.source.root.Has "result" ∧ ¬r.source.root.Has "error" :=
    not_or.1 fun h => hnone ⟨hjson, h⟩
  constructor
  · intro hcarries
    have hjson := hcarries.isJson
    obtain ⟨hresult, herror⟩ := hhas hjson
    obtain ⟨hroot, -⟩ := carries_iff.1 hcarries
    refine ⟨hjson, hnone, ?_⟩
    cases hd : r.source.root with
    | object members cut =>
      rw [hd] at hroot hresult herror
      exact Envelope.misreadFrom_of_object hresult herror hroot
    | array items cut =>
      rw [hd] at hroot
      exact Envelope.misreadFrom_of_array hroot
    | number value =>
      rw [hd] at hroot
      cases value <;> cases hroot
    | _ =>
      rw [hd] at hroot
      cases hroot
  · rintro ⟨hjson, -, hmisread⟩
    obtain ⟨hresult, herror⟩ := hhas hjson
    refine carries_iff.2 ⟨?_, hjson.2⟩
    have hskip := hjson.1
    cases hd : r.source.root with
    | object members cut =>
      rw [hd] at hmisread hresult herror hskip
      exact Envelope.decode_of_misreadFrom_object hresult herror hskip hmisread
    | array items cut =>
      rw [hd] at hmisread
      exact Envelope.decode_of_misreadFrom_array hmisread
    | _ =>
      rw [hd] at hmisread
      cases hmisread

/-! ## Calls -/

/-- A call whose reply comes in time ends as the reply says. -/
theorem value_call_of_reply (hreply : node n ⟨channel, ⟨method, params⟩⟩ = .reply after r)
    (hin : inTime channel.limit after = true) :
    ((call channel method params decoder).run node n).value =
      some (Answer.decode decoder channel.endpoint (.reply r)) := by
  unfold call Talk.call
  simp only [bind, Talk.bind, pure, Talk.run, hreply, Talk.answer_reply hin]

theorem Reply.outcome_of_not_carries (hfailed : r.isSuccess = false) (h : ¬∃ e, r.Carries e) :
    r.outcome = .error (.status r.status (Text.Utf8.decodeLossy r.body)) := by
  unfold outcome
  cases hcarries : (Json.Source.ofBytes r.body).decode Envelope.decode with
  | ok e => exact absurd ⟨e, hcarries⟩ h
  | error error => simp [hfailed]

/-- What an envelope leads to is never a failure with a status. -/
theorem Envelope.ne_status (status : Nat) (body : String) :
    (do let result ← e.outcome; (result.decode decoder).mapError (.undecodable .jsonValue)) ≠
      Except.error (Failure.status status body) := by
  intro h
  unfold outcome at h
  cases herror : e.error with
  | some refusal =>
    rw [herror] at h
    cases h
  | none =>
    rw [herror] at h
    obtain ⟨error, -, hfailure⟩ := Result.mapError_eq_error_iff.1 h
    cases hfailure

/-- What a call makes of a failed reply. It fails with the status and the body as a text exactly if
    the body is not accepted as an envelope, and ends as the envelope says if it is: with the value
    or the failure that decoding its result gives, or with its error. A body that is not JSON is
    never accepted; a body that is JSON and no response is accepted exactly if it can be misread. -/
theorem call_of_failed {α : Type} (channel : Channel) (method : String) (params : List Json)
    (decoder : Decoder α) (node : Node) {n : Nat} {after : Duration} {r : Reply}
    (hreply : node n ⟨channel, ⟨method, params⟩⟩ = .reply after r)
    (hin : inTime channel.limit after = true) (hfailed : r.isSuccess = false) :
    (((call channel method params decoder).run node n).value =
        some (.error (.status r.status (Text.Utf8.decodeLossy r.body))) ↔ ¬∃ e, r.Carries e) ∧
      (∀ e, r.Carries e → ((call channel method params decoder).run node n).value = some (do
        let result ← e.outcome
        (result.decode decoder).mapError (.undecodable .jsonValue))) ∧
      (¬r.source.IsJson → ((call channel method params decoder).run node n).value =
        some (.error (.status r.status (Text.Utf8.decodeLossy r.body)))) ∧
      (¬r.Responds → (∀ e, r.Carries e ↔ r.MisreadAs e) ∧
        (((call channel method params decoder).run node n).value =
            some (.error (.status r.status (Text.Utf8.decodeLossy r.body))) ↔
          ¬∃ e, r.MisreadAs e)) := by
  rw [value_call_of_reply hreply hin]
  have hcarries (e : Envelope) (h : r.Carries e) :
      some (Answer.decode decoder channel.endpoint (.reply r)) = some (do
        let result ← e.outcome
        (result.decode decoder).mapError (.undecodable .jsonValue)) := by
    rw [Answer.decode, Reply.outcome_of_carries h]
  have hstatus : some (Answer.decode decoder channel.endpoint (.reply r)) =
      some (.error (.status r.status (Text.Utf8.decodeLossy r.body))) ↔ ¬∃ e, r.Carries e := by
    constructor
    · rintro hvalue ⟨e, he⟩
      rw [hcarries e he] at hvalue
      exact Envelope.ne_status _ _ (Option.some.inj hvalue)
    · intro h
      rw [Answer.decode_of_outcome_error (Reply.outcome_of_not_carries hfailed h)]
  refine ⟨hstatus, hcarries, ?_, ?_⟩
  · intro hnot
    apply hstatus.2
    rintro ⟨e, he⟩
    exact hnot he.isJson
  · intro hnone
    have hmisread (e : Envelope) := Reply.carries_iff_misreadAs (e := e) hnone
    refine ⟨hmisread, ?_⟩
    rw [hstatus]
    simp only [hmisread]

/-- A channel to a node. -/
def nodeChannel : Channel where
  number := 0
  protocol := .plain
  endpoint := ⟨"http", "", "", some (.domain "node"), none, .segments [""], none, none⟩

/-- A failed reply that is no JSON, and whose last byte is no text. -/
def garbled : Reply := ⟨502, [0x6E, 0x6F, 0xFF]⟩

theorem call_of_failed_garbled :
    garbled.isSuccess = false ∧ ¬garbled.Responds ∧
      ((call nodeChannel "getblockcount" [] Decoder.word).run (fun _ _ => .reply .zero garbled)
        0).value = some (.error (.status 502 "no\uFFFD")) := by
  have hnot : ¬garbled.source.IsJson := by
    have hsource : garbled.source.root = .broken .malformed (some .malformed) := by cbv
    rintro ⟨hskip, -⟩
    rw [hsource] at hskip
    cases hskip
  have htext : Text.Utf8.decodeLossy garbled.body = "no\uFFFD" := by cbv
  obtain ⟨-, -, hvalue, -⟩ := call_of_failed nodeChannel "getblockcount" [] Decoder.word
    (fun _ _ => .reply .zero garbled) (n := 0) rfl rfl rfl
  refine ⟨rfl, fun hresponds => hnot hresponds.1, ?_⟩
  rw [hvalue hnot, htext]
  rfl

/-- A failed reply with an empty object. -/
def emptyObject : Reply := ⟨503, [0x7B, 0x7D]⟩

/-- A failed call is taken for one that succeeded, or for one whose result does not decode,
    depending on the type of the result. -/
theorem call_of_emptyObject :
    emptyObject.isSuccess = false ∧ ¬emptyObject.Responds ∧
      ((call nodeChannel "getblockcount" [] Decoder.any).run (fun _ _ => .reply .zero emptyObject)
        0).value = some (.ok .null) ∧
      ((call nodeChannel "getblockcount" [] Decoder.word).run (fun _ _ => .reply .zero emptyObject)
        0).value =
          some (.error (.undecodable .jsonValue (.mismatch [] (.invalidType .null "u64")))) := by
  have hsource : emptyObject.source = ⟨.object [] none, false⟩ := by cbv
  have hcarries : emptyObject.Carries ⟨none, none⟩ :=
    Reply.carries_blank_of_object hsource (by simp)
  have houtcome : emptyObject.outcome = .ok .null := Reply.outcome_of_carries hcarries
  refine ⟨rfl, ?_, ?_, ?_⟩
  · rintro ⟨-, hhas⟩
    rw [hsource] at hhas
    simp [Document.Has] at hhas
  · rw [value_call_of_reply (n := 0) rfl rfl, Answer.decode, houtcome]
    rfl
  · rw [value_call_of_reply (n := 0) rfl rfl, Answer.decode, houtcome]
    rfl

end Rpc

end AssetOracle
