import AssetOracle.Proofs.Document.Record

/-!
# Texts that are read to their end

A decoder stops at the first thing that it cannot use, but what it accepts it has walked through:
in a text that decodes nothing is malformed or cut off, not even where a value was skipped
(`Decoder.Thorough`). A structure is read thoroughly if its fields are (`thorough_record`).
-/

namespace AssetOracle

namespace Document

mutual

/-- A document that was kept has no fault in it. -/
theorem skipFault_of_keep : ∀ {d : Document} {value : Json}, d.keep = .ok value → d.skipFault = none
  | .null, _, _ => rfl
  | .bool _, _, _ => rfl
  | .number _, _, _ => rfl
  | .text _, _, _ => rfl
  | .array _ _, _, h => by
    obtain ⟨values, hvalues, -⟩ := Result.map_eq_ok_iff.1 h
    exact skipItems_of_keepList hvalues
  | .object _ _, _, h => by
    obtain ⟨table, htable, -⟩ := Result.map_eq_ok_iff.1 h
    exact skipMembers_of_keepObject htable

theorem skipItems_of_keepList : ∀ {items : List Document} {cut : Option Fault} {values : List Json},
    keepList items cut = .ok values → skipItems items cut = none
  | [], none, _, _ => rfl
  | item :: items, cut, _, h => by
    obtain ⟨value, hvalue, h⟩ := Result.bind_eq_ok_iff.1 h
    obtain ⟨values, hvalues, -⟩ := Result.bind_eq_ok_iff.1 h
    rw [skipItems, skipFault_of_keep hvalue, skipItems_of_keepList hvalues]
    rfl

theorem skipMembers_of_keepObject : ∀ {members : List (Except Fault String × Document)}
    {cut : Option Fault} {before table : List (String × Json)},
    keepObject before members cut = .ok table → skipMembers members cut = none
  | [], none, _, _, _ => rfl
  | (.ok name, item) :: members, cut, _, _, h => by
    obtain ⟨value, hvalue, h⟩ := Result.bind_eq_ok_iff.1 h
    rw [skipMembers, skipFault_of_keep hvalue, skipMembers_of_keepObject h]
    rfl

end

end Document

theorem Slots.exists_decode_of_meet {fields : List Field} {dialect : Dialect} {name : String}
    {d : Document} {slots slots' : Slots fields}
    (h : slots.meet dialect name d fields = some (.ok slots')) :
    ∃ f ∈ fields, ∃ x, f.decode dialect d = .ok x := by
  induction fields with
  | nil => cases h
  | cons f fields ih =>
    obtain ⟨slot, rest⟩ := slots
    by_cases hname : f.name = name
    · cases slot with
      | some old => simp [meet, hname] at h
      | none =>
        simp only [meet, if_pos hname] at h
        obtain ⟨x, hx, -⟩ := Result.map_eq_ok_iff.1 (Option.some.inj h)
        exact ⟨f, List.mem_cons_self, x, Result.mapError_eq_ok_iff.1 hx⟩
    · simp only [meet, if_neg hname] at h
      obtain ⟨result, hresult, h⟩ := Option.map_eq_some_iff.1 h
      obtain ⟨rest', rfl, -⟩ := Result.map_eq_ok_iff.1 h
      obtain ⟨g, hg, hx⟩ := ih hresult
      exact ⟨g, List.mem_cons_of_mem f hg, hx⟩

namespace Decoder

variable {α β : Type} {decode : Decoder α}

/-- Whether nothing in a text is malformed or cut off if the decoder accepts it. -/
def Thorough (decode : Decoder α) : Prop :=
  ∀ {d x}, decode .jsonText d = .ok x → d.skipFault = none

theorem Thorough.map (h : decode.Thorough) (f : α → β) : (decode.map f).Thorough := by
  intro d x hx
  obtain ⟨y, hy, -⟩ := Result.map_eq_ok_iff.1 hx
  exact h hy

theorem thorough_text : text.Thorough := by
  intro d x hx
  cases d with
  | array ds cut => cases hx
  | object ms cut => cases hx
  | broken kept skipped => cases hx
  | _ => rfl

theorem thorough_integer (low high : Int) (wanted : String) :
    (integer low high wanted).Thorough := by
  intro d x hx
  cases d with
  | array ds cut => cases hx
  | object ms cut => cases hx
  | broken kept skipped => cases hx
  | _ => rfl

theorem thorough_any : any.Thorough := fun hx =>
  Document.skipFault_of_keep (Result.mapError_eq_ok_iff.1 hx)

theorem Thorough.optional (h : decode.Thorough) : (optional decode).Thorough := by
  intro d x hx
  unfold Decoder.optional at hx
  split at hx
  · rfl
  · obtain ⟨y, hy, -⟩ := Result.map_eq_ok_iff.1 hx
    exact h hy

variable {fields : List Field} (hfields : ∀ f ∈ fields, f.decode.Thorough)

include hfields

theorem skipMembers_of_members {ms : List (Except Fault String × Document)} {cut : Option Fault}
    {slots slots' : Slots fields} (h : members fields .jsonText cut ms slots = .ok slots') :
    Document.skipMembers ms cut = none := by
  induction ms generalizing slots with
  | nil =>
    cases cut with
    | some fault => cases h
    | none => rfl
  | cons member ms ih =>
    obtain ⟨name, d⟩ := member
    cases name with
    | error fault => cases h
    | ok name =>
      simp only [members] at h
      rw [Document.skipMembers]
      cases hmeet : slots.meet .jsonText name d fields with
      | none =>
        simp only [hmeet] at h
        cases hskip : d.skipFault with
        | some fault =>
          rw [hskip] at h
          cases h
        | none =>
          rw [hskip] at h
          exact ih h
      | some result =>
        simp only [hmeet] at h
        obtain ⟨next, rfl, h⟩ := Result.bind_eq_ok_iff.1 h
        obtain ⟨f, hf, x, hx⟩ := Slots.exists_decode_of_meet hmeet
        rw [hfields f hf hx, ih h]
        rfl

/-- The items that the fields take have no fault, so a fault lies behind them. -/
theorem skipItems_of_row {tooShort : Nat → Mismatch} {cut : Option Fault} {i : Nat}
    {ds surplus : List Document} {values : Row fields}
    (h : row tooShort .jsonText cut i fields ds = .ok (values, surplus))
    (hsurplus : Document.skipItems surplus cut = none) : Document.skipItems ds cut = none := by
  induction fields generalizing i ds with
  | nil =>
    obtain ⟨-, rfl⟩ := Prod.mk.inj (Except.ok.inj h)
    exact hsurplus
  | cons f fields ih =>
    obtain ⟨hf, hrest⟩ := List.forall_mem_cons.1 hfields
    cases ds with
    | cons d ds =>
      obtain ⟨x, hx, h⟩ := Result.bind_eq_ok_iff.1 h
      obtain ⟨⟨more, left⟩, hmore, h⟩ := Result.bind_eq_ok_iff.1 h
      obtain ⟨-, rfl⟩ := Prod.mk.inj (Except.ok.inj h)
      rw [Document.skipItems, hf (Result.mapError_eq_ok_iff.1 hx), ih hrest hmore]
      rfl
    | nil =>
      cases cut with
      | some fault => cases h
      | none => rfl

/-- A structure is read to its end if its fields are. -/
theorem thorough_record (name : String) : (record name fields).Thorough := by
  intro d x hx
  cases d with
  | object ms cut =>
    obtain ⟨slots, hslots, -⟩ := Result.bind_eq_ok_iff.1 hx
    exact skipMembers_of_members hfields hslots
  | array ds cut =>
    obtain ⟨⟨values, surplus⟩, hrow, hx⟩ := Result.bind_eq_ok_iff.1 hx
    refine skipItems_of_row hfields hrow ?_
    cases surplus with
    | cons d ds => cases hx
    | nil =>
      cases cut with
      | some fault => cases hx
      | none => rfl
  | broken kept skipped => cases hx
  | _ => rfl

end Decoder

theorem Document.skipFault_of_mem {members : List (Except Fault String × Document)}
    {cut : Option Fault} (h : skipMembers members cut = none) :
    ∀ member ∈ members, member.2.skipFault = none := by
  induction members with
  | nil => simp
  | cons member members ih =>
    obtain ⟨name, d⟩ := member
    simp only [skipMembers, Option.or_eq_none_iff] at h
    exact List.forall_mem_cons.2 ⟨h.1, ih h.2⟩

namespace Json.Source

variable {α : Type} {decoder : Decoder α} {source : Source} {x : α}

/-- Whether a text is JSON: one value with nothing behind it, and nothing in it that is malformed
    or cut off. -/
def IsJson (source : Source) : Prop := source.root.skipFault = none ∧ source.trailing = false

theorem decode_eq_ok_iff :
    source.decode decoder = .ok x ↔
      decoder .jsonText source.root = .ok x ∧ source.trailing = false := by
  unfold decode
  cases hvalue : decoder .jsonText source.root with
  | error error => simp [bind, Except.bind]
  | ok value =>
    cases htrailing : source.trailing <;>
      simp [bind, Except.bind, pure, Except.pure, throw, throwThe, MonadExceptOf.throw]

/-- A text that decodes is JSON. -/
theorem isJson_of_decode (hdecoder : decoder.Thorough) (h : source.decode decoder = .ok x) :
    source.IsJson := by
  obtain ⟨hx, htrailing⟩ := decode_eq_ok_iff.1 h
  exact ⟨hdecoder hx, htrailing⟩

end Json.Source

end AssetOracle
