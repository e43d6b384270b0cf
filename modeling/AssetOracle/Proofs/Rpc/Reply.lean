import AssetOracle.Proofs.Document.RoundTrip
import AssetOracle.Rpc.Client

/-!
# What a reply carries

A reply is read in two steps, and the first one decides: a body that is an envelope says by its
error member whether the node refuses, and by its result otherwise (`outcome_of_carries`). Both
members may be left out, so an object that has neither is an envelope too, without an error
(`carries_blank_of_object`). The status is looked at for bodies that are no envelopes only.
-/

namespace AssetOracle

namespace Json

/-- Free-form JSON takes every value. -/
theorem exists_decode_any (value : Json) : ∃ kept, value.decode Decoder.any = .ok kept := by
  obtain ⟨kept, hkept⟩ := exists_keep_toDocument value
  exact ⟨kept, by rw [decode, Decoder.any, hkept]; rfl⟩

end Json

namespace Rpc

/-- Whether the body of a reply is an envelope. -/
def Reply.Carries (r : Reply) (e : Envelope) : Prop :=
  (Json.Source.ofBytes r.body).decode Envelope.decode = .ok e

variable {r : Reply} {e : Envelope}

theorem Reply.outcome_of_carries (h : r.Carries e) : r.outcome = e.outcome := by
  unfold Reply.outcome
  rw [h]

theorem Envelope.outcome_eq_ok_iff {value : Json} :
    e.outcome = .ok value ↔ e.error = none ∧ e.result.getD .null = value := by
  unfold Envelope.outcome
  cases e.error with
  | none => simp
  | some refusal => simp

theorem Envelope.outcome_eq_refused_iff {code : Int} {message : String} :
    e.outcome = .error (.refused code message) ↔ e.error = some ⟨code, message⟩ := by
  unfold Envelope.outcome
  cases e.error with
  | none => simp
  | some refusal =>
    obtain ⟨c, m⟩ := refusal
    simp

/-- Every outcome that is not about the status or about decoding is that of an envelope. -/
theorem Reply.outcome_eq_iff {x : Except Failure Json}
    (hstatus : ∀ status body, x ≠ .error (.status status body))
    (hdecode : ∀ error, x ≠ .error (.undecodable .jsonText error)) :
    r.outcome = x ↔ ∃ e, r.Carries e ∧ e.outcome = x := by
  constructor
  · intro houtcome
    unfold Reply.outcome at houtcome
    cases hcarries : (Json.Source.ofBytes r.body).decode Envelope.decode with
    | ok e =>
      rw [hcarries] at houtcome
      exact ⟨e, hcarries, houtcome⟩
    | error error =>
      rw [hcarries] at houtcome
      by_cases hsuccess : r.isSuccess = true
      · simp only [hsuccess, if_true] at houtcome
        exact absurd houtcome.symm (hdecode error)
      · simp only [hsuccess] at houtcome
        exact absurd houtcome.symm (hstatus r.status (Text.Utf8.decodeLossy r.body))
  · rintro ⟨e, hcarries, houtcome⟩
    rw [outcome_of_carries hcarries, houtcome]

/-- A reply has a result if its body is an envelope without an error. -/
theorem Reply.outcome_isOk_iff :
    (∃ value, r.outcome = .ok value) ↔ ∃ e, r.Carries e ∧ e.error = none := by
  constructor
  · rintro ⟨value, hvalue⟩
    obtain ⟨e, hcarries, he⟩ := (outcome_eq_iff (by simp) (by simp)).1 hvalue
    exact ⟨e, hcarries, (Envelope.outcome_eq_ok_iff.1 he).1⟩
  · rintro ⟨e, hcarries, he⟩
    refine ⟨e.result.getD .null, ?_⟩
    rw [outcome_of_carries hcarries, Envelope.outcome_eq_ok_iff]
    exact ⟨he, rfl⟩

/-- A reply is a refusal if its body is an envelope with that error. -/
theorem Reply.outcome_eq_refused_iff {code : Int} {message : String} :
    r.outcome = .error (.refused code message) ↔
      ∃ e, r.Carries e ∧ e.error = some ⟨code, message⟩ := by
  rw [outcome_eq_iff (by simp) (by simp)]
  exact exists_congr fun e => and_congr_right fun _ => Envelope.outcome_eq_refused_iff

/-- Only a reply has a value, which its result decodes to. -/
theorem Answer.decode_eq_ok_iff {α : Type} {decoder : Decoder α} {endpoint : Url} {answer : Answer}
    {value : α} :
    answer.decode decoder endpoint = .ok value ↔
      ∃ r result, answer = .reply r ∧ r.outcome = .ok result ∧
        result.decode decoder = .ok value := by
  cases answer with
  | reply r =>
    refine Result.bind_eq_ok_iff.trans ?_
    simp [Result.mapError_eq_ok_iff]
  | broken => simp [Answer.decode]
  | late => simp [Answer.decode]

theorem Answer.decode_of_outcome_error {α : Type} {decoder : Decoder α} {endpoint : Url}
    {failure : Failure} (h : r.outcome = .error failure) :
    Answer.decode decoder endpoint (.reply r) = .error failure := by
  rw [Answer.decode, h]
  rfl

theorem Answer.decode_any_of_outcome_ok (endpoint : Url) {value : Json}
    (h : r.outcome = .ok value) :
    ∃ kept, Answer.decode Decoder.any endpoint (.reply r) = .ok kept := by
  obtain ⟨kept, hkept⟩ := Json.exists_decode_any value
  refine ⟨kept, ?_⟩
  rw [Answer.decode, h]
  simp only [bind, Except.bind, hkept]
  rfl

/-- An object without a result and without an error is an envelope that has neither. -/
theorem Reply.carries_blank_of_object {members : List (Except Fault String × Document)}
    (hsource : Json.Source.ofBytes r.body = ⟨.object members none, false⟩)
    (hmembers : ∀ member ∈ members, Document.Unnamed
      [.optional "result" Decoder.any, .optional "error" Refusal.decode] member) :
    r.Carries ⟨none, none⟩ := by
  unfold Reply.Carries Json.Source.decode Envelope.decode
  rw [hsource]
  simp only [Decoder.map, Decoder.record, Decoder.recordOfMembers,
    Decoder.members_eq_of_unnamed hmembers]
  rfl

end Rpc

end AssetOracle
