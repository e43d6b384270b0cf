import AssetOracle.Proofs.Document.Reading
import AssetOracle.Proofs.Rpc.Reply
import AssetOracle.Proofs.Rpc.Talk

/-!
# Replies in another layout

The body of a reply may have the members of its objects in another order, and further members that
nobody reads (`Reply.Relaid`). Such replies are alike, so they carry envelopes with the same error
and with results that are alike (`Reply.Alike.carries`). A talk that has a value against nodes then
has it against all nodes that react in the same way up to the layout of their replies, since this
passes from its calls to the whole of it (`Talk.Transfers.bind`).
-/

namespace AssetOracle.Rpc

variable {s : Shape} {r r' : Reply} {e : Envelope}

/-- The places of an error object. -/
def Refusal.shape : Shape := .record [("code", .free), ("message", .free)]

/-- The places of an envelope around a result. -/
def Envelope.shape (result : Shape) : Shape :=
  .record [("result", result), ("error", Refusal.shape)]

/-- The fields of an error object. -/
def Refusal.readings : List Reading :=
  [.exact (.required "code" Decoder.signed) .free (Decoder.follows_integer _ _ _),
    .exact (.required "message" Decoder.text) .free Decoder.follows_text]

theorem Refusal.follows_decode : Refusal.decode.Follows Refusal.shape Eq :=
  Decoder.Follows.map_eq <|
    Reading.follows_record_eq readings "ErrorObject" [] (by decide) (by simp [readings, Reading.IsExact, Reading.exact])

/-- Whether two envelopes have the same error, and results that are alike. -/
def Envelope.Alike (s : Shape) (e e' : Envelope) : Prop :=
  Option.Rel (fun j j' => Document.Alike s j.toDocument j'.toDocument) e.result e'.result ∧
    e.error = e'.error

/-- The fields of an envelope. -/
def Envelope.readings (s : Shape) : List Reading :=
  [{  field := .optional "result" Decoder.any
      shape := s
      Agree := Option.Rel fun j j' => Document.Alike s j.toDocument j'.toDocument
      follows := Decoder.follows_any.optional
      missing := by rintro x ⟨⟩; exact .none
      short := by rintro x ⟨⟩; exact .none },
    .exact (.optional "error" Refusal.decode) Refusal.shape Refusal.follows_decode.optional_eq]

theorem Envelope.follows_decode : Envelope.decode.Follows (Envelope.shape s) (Envelope.Alike s) := by
  refine Decoder.Follows.map
    (Reading.follows_record (readings s) "Envelope" [] (by simp [readings, Reading.exact, Field.optional, Field.withDefault])) ?_
  rintro ⟨result, error, ⟨⟩⟩ ⟨result', error', ⟨⟩⟩ ⟨hresult, herror, -⟩
  exact ⟨hresult, herror⟩

/-- A result that is missing counts as null in both. -/
theorem Envelope.Alike.value {e' : Envelope} (h : e.Alike s e') :
    Document.Alike s (e.result.getD .null).toDocument (e'.result.getD .null).toDocument := by
  obtain ⟨result, error⟩ := e
  obtain ⟨result', error'⟩ := e'
  obtain ⟨hresult, -⟩ := h
  cases hresult with
  | none => exact .scalar trivial
  | some halike => exact halike

/-! ## Replies -/

/-- Whether the bodies of two replies are documents that differ in their layout only, the first of
    which repeats no name. -/
structure Reply.Relaid (s : Shape) (r r' : Reply) : Prop where
  distinct : (Json.Source.ofBytes r.body).root.Distinct
  root : Document.Relaid (Envelope.shape s) (Json.Source.ofBytes r.body).root
    (Json.Source.ofBytes r'.body).root
  trailing : (Json.Source.ofBytes r'.body).trailing = (Json.Source.ofBytes r.body).trailing

/-- Whether the bodies of two replies say the same to a reader. -/
structure Reply.Alike (s : Shape) (r r' : Reply) : Prop where
  root : Document.Alike (Envelope.shape s) (Json.Source.ofBytes r.body).root
    (Json.Source.ofBytes r'.body).root
  trailing : (Json.Source.ofBytes r'.body).trailing = (Json.Source.ofBytes r.body).trailing

theorem Reply.Relaid.alike (h : r.Relaid s r') : r.Alike s r' :=
  ⟨h.root.alike h.distinct, h.trailing⟩

namespace Reply.Alike

theorem symm (h : r.Alike s r') : r'.Alike s r := ⟨h.root.symm, h.trailing.symm⟩

theorem carries (h : r.Alike s r') (he : r.Carries e) : ∃ e', r'.Carries e' ∧ e.Alike s e' := by
  obtain ⟨hdecode, htrailing⟩ := Json.Source.decode_eq_ok_iff.1 he
  obtain ⟨e', hdecode', halike⟩ := Envelope.follows_decode h.root hdecode
  exact ⟨e', Json.Source.decode_eq_ok_iff.2 ⟨hdecode', h.trailing.trans htrailing⟩, halike⟩

theorem outcome_ok (h : r.Alike s r') {value : Json} (hvalue : r.outcome = .ok value) :
    ∃ value', r'.outcome = .ok value' ∧
      Document.Alike s value.toDocument value'.toDocument := by
  obtain ⟨e, he, houtcome⟩ := (outcome_eq_iff (by simp) (by simp)).1 hvalue
  obtain ⟨hnone, rfl⟩ := Envelope.outcome_eq_ok_iff.1 houtcome
  obtain ⟨e', he', halike⟩ := h.carries he
  refine ⟨e'.result.getD .null, ?_, halike.value⟩
  rw [outcome_of_carries he']
  exact Envelope.outcome_eq_ok_iff.2 ⟨halike.2 ▸ hnone, rfl⟩

theorem outcome_refused (h : r.Alike s r') {code : Int} {message : String}
    (hrefused : r.outcome = .error (.refused code message)) :
    r'.outcome = .error (.refused code message) := by
  obtain ⟨e, he, herror⟩ := outcome_eq_refused_iff.1 hrefused
  obtain ⟨e', he', -, hsame⟩ := h.carries he
  exact outcome_eq_refused_iff.2 ⟨e', he', hsame ▸ herror⟩

/-- What a result is decoded to is the same for replies that are alike, or related if the decoder
    follows with related values. -/
theorem decode_ok {α : Type} {decoder : Decoder α} {R : α → α → Prop} {endpoint : Url} {x : α}
    (h : r.Alike s r') (hdecoder : decoder.Follows s R)
    (hx : (Answer.reply r).decode decoder endpoint = .ok x) :
    ∃ x', (Answer.reply r').decode decoder endpoint = .ok x' ∧ R x x' := by
  obtain ⟨_, value, heq, hvalue, hdecode⟩ := Answer.decode_eq_ok_iff.1 hx
  cases heq
  obtain ⟨value', hvalue', halike⟩ := h.outcome_ok hvalue
  obtain ⟨x', hx', hR⟩ := hdecoder halike hdecode
  exact ⟨x', Answer.decode_eq_ok_iff.2 ⟨r', value', rfl, hvalue', hx'⟩, hR⟩

end Reply.Alike

/-! ## Reactions -/

/-- Whether two reactions are the same, or replies after the same time that are related. -/
inductive Reaction.Rel (R : Reply → Reply → Prop) : Reaction → Reaction → Prop where
  | same (reaction : Reaction) : Rel R reaction reaction
  | reply (after : Duration) {r r' : Reply} (h : R r r') :
    Rel R (.reply after r) (.reply after r')

/-- Whether two answers are the same, or replies that are related. -/
inductive Answer.Rel (R : Reply → Reply → Prop) : Answer → Answer → Prop where
  | same (answer : Answer) : Rel R answer answer
  | reply {r r' : Reply} (h : R r r') : Rel R (.reply r) (.reply r')

section Rel

variable {R S : Reply → Reply → Prop} {reaction reaction' : Reaction}

theorem Reaction.Rel.mono (h : reaction.Rel R reaction') (hRS : ∀ r r', R r r' → S r r') :
    reaction.Rel S reaction' := by
  cases h with
  | same => exact .same reaction
  | reply after h => exact .reply after (hRS _ _ h)

theorem Reaction.Rel.symm (h : reaction.Rel R reaction') (hR : ∀ r r', R r r' → R r' r) :
    reaction'.Rel R reaction := by
  cases h with
  | same => exact .same reaction
  | reply after h => exact .reply after (hR _ _ h)

/-- Callers get related answers after the same time. -/
theorem Reaction.Rel.answer (h : reaction.Rel R reaction') {limit : Option Duration}
    {answer : Answer} {after : Duration} (hanswer : reaction.answer limit = some (answer, after)) :
    ∃ answer', reaction'.answer limit = some (answer', after) ∧ answer.Rel R answer' := by
  cases h with
  | same => exact ⟨answer, hanswer, .same answer⟩
  | reply duration h =>
    simp only [Reaction.answer, Reaction.duration?] at hanswer ⊢
    by_cases hin : inTime limit duration = true
    · rw [if_pos hin] at hanswer ⊢
      cases hanswer
      exact ⟨_, rfl, .reply h⟩
    · rw [if_neg hin] at hanswer ⊢
      exact ⟨answer, hanswer, .same answer⟩

end Rel

/-! ## Talks -/

namespace Talk

variable {ε α β : Type} {node node' : Node} {t : Talk (Except ε α)}

/-- Whether a talk that has a value against one node has it against another one, after as many
    calls. -/
def Transfers (node node' : Node) (t : Talk (Except ε α)) : Prop :=
  ∀ made x, (t.run node made).value = some (.ok x) →
    (t.run node' made).value = some (.ok x) ∧
      (t.run node' made).calls.length = (t.run node made).calls.length

theorem transfers_pure (x : Except ε α) : Transfers node node' (pure x) :=
  fun _ _ hx => ⟨hx, rfl⟩

theorem Transfers.bind (h : t.Transfers node node') {f : Except ε α → Talk (Except ε β)}
    (herror : ∀ e, f (.error e) = pure (.error e))
    (hf : ∀ x, (f (.ok x)).Transfers node node') : (t >>= f).Transfers node node' := by
  intro made y hy
  obtain ⟨x, hx, hrest⟩ := (value_bind_eq_ok_iff herror).1 hy
  obtain ⟨hx', hlength⟩ := h made x hx
  obtain ⟨hrest', hmore⟩ := hf x _ y hrest
  -- what follows begins with the call of the same number against both nodes
  rw [← hlength] at hrest' hmore
  refine ⟨(value_bind_eq_ok_iff herror).2 ⟨x, hx', hrest'⟩, ?_⟩
  rw [run_bind.2, run_bind.2, hx, hx']
  simp only [List.length_append, Option.elim]
  rw [hmore, hlength]

/-- One call, whose answer is used in such a way that related replies have the same value. -/
theorem transfers_ask {R : Reply → Reply → Prop} {a : Ask} {g : Answer → Except ε α}
    (hnode : ∀ n, (node n a).Rel R (node' n a))
    (hg : ∀ r r' x, R r r' → g (.reply r) = .ok x → g (.reply r') = .ok x) :
    Transfers node node' (.ask a fun answer => .done (g answer)) := by
  intro made x hx
  rw [(run_once g).1, Option.map_eq_some_iff] at hx ⊢
  obtain ⟨⟨answer, after⟩, hanswer, hvalue⟩ := hx
  obtain ⟨answer', hanswer', hrel⟩ := (hnode made).answer hanswer
  refine ⟨⟨(answer', after), hanswer', ?_⟩, by rw [(run_once g).2, (run_once g).2]; rfl⟩
  cases hrel with
  | same => exact hvalue
  | reply h => exact hg _ _ x h hvalue

/-- What a talk ends with if it ends with a value. -/
theorem Transfers.ending (h : t.Transfers node node') {made : Nat} {x : α}
    (hx : (t.run node made).job.ending = .returned (.ok x)) :
    (t.run node' made).job.ending = .returned (.ok x) :=
  Run.ending_job_iff.2 (h made x (Run.ending_job_iff.1 hx)).1

end Talk

end AssetOracle.Rpc
