import AssetOracle.Json.Decode
import AssetOracle.Proofs.Result

/-!
# Members and fields

A structure that is given as an object is read member by member. A member that no field is named
after is skipped and leaves the values of the fields as they are (`members_eq_of_unnamed`). A field
has the value of the member that is named after it, or its default if there is no such member
(`of_recordOfMembers`).
-/

namespace AssetOracle

variable {fields : List Field} {f : Field} {dialect : Dialect} {name : String} {d : Document}
  {cut : Option Fault} {ms : List (Except Fault String × Document)}

theorem Slots.meet_eq_none (h : ∀ f ∈ fields, f.name ≠ name) (slots : Slots fields) :
    slots.meet dialect name d fields = none := by
  induction fields with
  | nil => rfl
  | cons f fields ih =>
    obtain ⟨slot, rest⟩ := slots
    obtain ⟨hf, hfields⟩ := List.forall_mem_cons.1 h
    cases slot <;> rw [Slots.meet, if_neg hf, ih hfields] <;> rfl

/-- Whether a member is whole, fit for skipping, and named after no field. -/
def Document.Unnamed (fields : List Field) (member : Except Fault String × Document) : Prop :=
  ∃ name, member.1 = .ok name ∧ (∀ f ∈ fields, f.name ≠ name) ∧ member.2.skipFault = none

/-- Members that are named after no field are skipped. -/
theorem Decoder.members_eq_of_unnamed {ms : List (Except Fault String × Document)}
    (h : ∀ member ∈ ms, Document.Unnamed fields member) (slots : Slots fields) :
    Decoder.members fields dialect none ms slots = .ok slots := by
  induction ms with
  | nil => rfl
  | cons member ms ih =>
    obtain ⟨hmember, hms⟩ := List.forall_mem_cons.1 h
    obtain ⟨name, d⟩ := member
    obtain ⟨name, rfl, hname, hskip⟩ := hmember
    simp only [Decoder.members, Slots.meet_eq_none hname, hskip]
    exact ih hms

/-- Members of which none is named after a field are accepted only if all of them are skipped. -/
theorem Decoder.unnamed_of_members {slots slots' : Slots fields}
    (hnone : ∀ f ∈ fields, ∀ d, (.ok f.name, d) ∉ ms)
    (h : Decoder.members fields dialect cut ms slots = .ok slots') :
    cut = none ∧ slots' = slots ∧ ∀ member ∈ ms, Document.Unnamed fields member := by
  induction ms with
  | nil =>
    cases cut with
    | some fault => cases h
    | none =>
      cases h
      exact ⟨rfl, rfl, fun member hmember => by cases hmember⟩
  | cons member ms ih =>
    obtain ⟨name, d⟩ := member
    cases name with
    | error fault => cases h
    | ok name =>
      have hname : ∀ f ∈ fields, f.name ≠ name := by
        rintro f hf rfl
        exact hnone f hf d List.mem_cons_self
      simp only [members, Slots.meet_eq_none hname] at h
      cases hskip : d.skipFault with
      | some fault =>
        rw [hskip] at h
        cases h
      | none =>
        rw [hskip] at h
        obtain ⟨hcut, hslots, hms⟩ :=
          ih (fun f hf d' hmem => hnone f hf d' (List.mem_cons_of_mem _ hmem)) h
        exact ⟨hcut, hslots, List.forall_mem_cons.2 ⟨⟨name, rfl, hname, hskip⟩, hms⟩⟩

/-! ## The values of fields -/

/-- Whether a field has this value among slots, or has not been met. -/
def Slots.Holds : (fields : List Field) → Slots fields → (f : Field) → Option f.Carrier → Prop
  | [], _, _, _ => False
  | g :: fs, (slot, rest), f, v => (g = f ∧ HEq slot v) ∨ Holds fs rest f v

/-- Whether a field has this value in a row. -/
def Row.Holds : (fields : List Field) → Row fields → (f : Field) → f.Carrier → Prop
  | [], _, _, _ => False
  | g :: fs, (value, rest), f, x => (g = f ∧ HEq value x) ∨ Holds fs rest f x

namespace Slots

variable {slots slots' : Slots fields} {v : Option f.Carrier}

theorem mem_of_holds (h : Holds fields slots f v) : f ∈ fields := by
  induction fields with
  | nil => cases h
  | cons g fs ih =>
    obtain ⟨slot, rest⟩ := slots
    rcases h with ⟨rfl, -⟩ | h
    · exact List.mem_cons_self
    · exact List.mem_cons_of_mem _ (ih h)

theorem eq_none_of_holds_empty (h : Holds fields (empty fields) f v) : v = none := by
  induction fields with
  | nil => cases h
  | cons g fs ih =>
    rcases h with ⟨rfl, h⟩ | h
    · exact (eq_of_heq h).symm
    · exact ih h

theorem name_ne_of_meet_eq_none (h : slots.meet dialect name d fields = none)
    (hf : f ∈ fields) : f.name ≠ name := by
  induction fields with
  | nil => cases hf
  | cons g fs ih =>
    obtain ⟨slot, rest⟩ := slots
    by_cases hg : g.name = name
    · cases slot <;> simp [meet, hg] at h
    · simp only [meet, if_neg hg, Option.map_eq_none_iff] at h
      rcases List.mem_cons.1 hf with rfl | hf
      · exact hg
      · exact ih h hf

/-- A member sets the field of its name, which had no value, and no other field. -/
theorem holds_of_meet (hnames : (fields.map (·.name)).Nodup)
    (h : slots.meet dialect name d fields = some (.ok slots')) (hv : Holds fields slots' f v) :
    (f.name ≠ name ∧ Holds fields slots f v) ∨
      f.name = name ∧ ∃ x, v = some x ∧ f.decode dialect d = .ok x := by
  induction fields with
  | nil => cases hv
  | cons g fs ih =>
    obtain ⟨slot, rest⟩ := slots
    obtain ⟨hg, hfs⟩ := List.nodup_cons.1 hnames
    by_cases hname : g.name = name
    · cases slot with
      | some old => simp [meet, hname] at h
      | none =>
        simp only [meet, if_pos hname] at h
        obtain ⟨x, hx, rfl⟩ := Result.map_eq_ok_iff.1 (Option.some.inj h)
        rcases hv with ⟨rfl, hv⟩ | hv
        · exact .inr ⟨hname, x, (eq_of_heq hv).symm, Result.mapError_eq_ok_iff.1 hx⟩
        · refine .inl ⟨fun heq => ?_, .inr hv⟩
          apply hg
          have hmem : f.name ∈ fs.map (·.name) := List.mem_map_of_mem (mem_of_holds hv)
          rw [heq, ← hname] at hmem
          exact hmem
    · simp only [meet, if_neg hname] at h
      obtain ⟨result, hresult, h⟩ := Option.map_eq_some_iff.1 h
      obtain ⟨rest', rfl, rfl⟩ := Result.map_eq_ok_iff.1 h
      rcases hv with ⟨rfl, hv⟩ | hv
      · exact .inl ⟨hname, .inl ⟨rfl, hv⟩⟩
      · rcases ih hfs hresult hv with ⟨hne, hold⟩ | hset
        · exact .inl ⟨hne, .inr hold⟩
        · exact .inr hset

theorem holds_of_complete {row : Row fields} {x : f.Carrier} (h : slots.complete fields = .ok row)
    (hx : row.Holds fields f x) : ∃ v, Holds fields slots f v ∧ v.or f.ifMissing = some x := by
  induction fields with
  | nil => cases hx
  | cons g fs ih =>
    obtain ⟨slot, rest⟩ := slots
    rw [complete] at h
    cases hvalue : slot.or g.ifMissing with
    | none =>
      rw [hvalue] at h
      cases h
    | some value =>
      rw [hvalue] at h
      obtain ⟨_, hsame, h⟩ := Result.bind_eq_ok_iff.1 h
      cases hsame
      obtain ⟨more, hmore, h⟩ := Result.bind_eq_ok_iff.1 h
      cases h
      rcases hx with ⟨rfl, hx⟩ | hx
      · cases hx
        exact ⟨slot, .inl ⟨rfl, HEq.rfl⟩, hvalue⟩
      · obtain ⟨v, hv, hor⟩ := ih hmore hx
        exact ⟨v, .inr hv, hor⟩

end Slots

namespace Decoder

variable {slots slots' : Slots fields} {v : Option f.Carrier}

theorem unexpected_ne_ok {α : Type} {wanted : String} {value : α} :
    unexpected wanted d ≠ .ok value := by
  unfold unexpected
  split <;> simp

theorem holds_of_members (hnames : (fields.map (·.name)).Nodup)
    (h : members fields dialect cut ms slots = .ok slots') (hv : Slots.Holds fields slots' f v) :
    (Slots.Holds fields slots f v ∧ ∀ d, (.ok f.name, d) ∉ ms) ∨
      ∃ d x, (.ok f.name, d) ∈ ms ∧ v = some x ∧ f.decode dialect d = .ok x := by
  induction ms generalizing slots with
  | nil =>
    cases cut with
    | some fault => cases h
    | none =>
      cases h
      exact .inl ⟨hv, fun d hd => by cases hd⟩
  | cons member ms ih =>
    obtain ⟨name, d⟩ := member
    cases name with
    | error fault => cases h
    | ok name =>
      have hfirst : ∀ (d' : Document), f.name ≠ name → (∀ d, (.ok f.name, d) ∉ ms) →
          ((.ok f.name, d') : Except Fault String × Document) ∉ (.ok name, d) :: ms := by
        intro d' hne hrest hmem
        rcases List.mem_cons.1 hmem with heq | hmem
        · cases heq
          exact hne rfl
        · exact hrest d' hmem
      simp only [members] at h
      cases hmeet : slots.meet dialect name d fields with
      | none =>
        have hne : f.name ≠ name := Slots.name_ne_of_meet_eq_none hmeet (Slots.mem_of_holds hv)
        simp only [hmeet] at h
        cases hskip : d.skipFault with
        | some fault =>
          rw [hskip] at h
          cases h
        | none =>
          rw [hskip] at h
          rcases ih h with ⟨hold, hrest⟩ | ⟨d', x, hmem, hx⟩
          · exact .inl ⟨hold, fun d' => hfirst d' hne hrest⟩
          · exact .inr ⟨d', x, List.mem_cons_of_mem _ hmem, hx⟩
      | some result =>
        simp only [hmeet] at h
        obtain ⟨next, rfl, h⟩ := Result.bind_eq_ok_iff.1 h
        rcases ih h with ⟨hold, hrest⟩ | ⟨d', x, hmem, hx⟩
        · rcases Slots.holds_of_meet hnames hmeet hold with ⟨hne, hold⟩ | ⟨rfl, x, hx⟩
          · exact .inl ⟨hold, fun d' => hfirst d' hne hrest⟩
          · exact .inr ⟨d, x, List.mem_cons_self, hx⟩
        · exact .inr ⟨d', x, List.mem_cons_of_mem _ hmem, hx⟩

/-- Every member of an object that is accepted has a name, and can be skipped if no field has that
    name. -/
theorem whole_of_members (h : members fields dialect cut ms slots = .ok slots') :
    cut = none ∧ ∀ m ∈ ms, ∃ name, m.1 = .ok name ∧
      ((∀ f ∈ fields, f.name ≠ name) → m.2.skipFault = none) := by
  induction ms generalizing slots with
  | nil =>
    cases cut with
    | some fault => cases h
    | none => exact ⟨rfl, fun m hm => by cases hm⟩
  | cons member ms ih =>
    obtain ⟨label, d⟩ := member
    cases label with
    | error fault => cases h
    | ok name =>
      simp only [members] at h
      cases hmeet : slots.meet dialect name d fields with
      | some result =>
        simp only [hmeet] at h
        obtain ⟨next, rfl, h⟩ := Result.bind_eq_ok_iff.1 h
        obtain ⟨hcut, hms⟩ := ih h
        refine ⟨hcut, List.forall_mem_cons.2 ⟨⟨name, rfl, fun hnone => ?_⟩, hms⟩⟩
        rw [Slots.meet_eq_none hnone] at hmeet
        cases hmeet
      | none =>
        simp only [hmeet] at h
        cases hskip : d.skipFault with
        | some fault =>
          rw [hskip] at h
          cases h
        | none =>
          rw [hskip] at h
          obtain ⟨hcut, hms⟩ := ih h
          exact ⟨hcut, List.forall_mem_cons.2 ⟨⟨name, rfl, fun _ => hskip⟩, hms⟩⟩

/-- A field of an object is decoded from a member of its name, or has its default if there is no
    such member. -/
theorem of_recordOfMembers {row : Row fields} {x : f.Carrier}
    (hnames : (fields.map (·.name)).Nodup) (h : recordOfMembers fields dialect ms cut = .ok row)
    (hx : row.Holds fields f x) :
    (∃ d, (.ok f.name, d) ∈ ms ∧ f.decode dialect d = .ok x) ∨
      (∀ d, (.ok f.name, d) ∉ ms) ∧ f.ifMissing = some x := by
  obtain ⟨slots, hslots, hrow⟩ := Result.bind_eq_ok_iff.1 h
  obtain ⟨v, hv, hor⟩ := Slots.holds_of_complete hrow hx
  rcases holds_of_members hnames hslots hv with ⟨hempty, hmissing⟩ | ⟨d, y, hmem, rfl, hy⟩
  · rw [Slots.eq_none_of_holds_empty hempty] at hor
    exact .inr ⟨hmissing, hor⟩
  · cases hor
    exact .inl ⟨d, hmem, hy⟩

theorem exists_holds (row : Row fields) (hf : f ∈ fields) : ∃ x, row.Holds fields f x := by
  induction fields with
  | nil => cases hf
  | cons g fs ih =>
    obtain ⟨value, rest⟩ := row
    rcases List.mem_cons.1 hf with rfl | hf
    · exact ⟨value, .inl ⟨rfl, HEq.rfl⟩⟩
    · obtain ⟨x, hx⟩ := ih rest hf
      exact ⟨x, .inr hx⟩

/-- A structure is not decoded from an object that lacks a member for a field without a default. -/
theorem recordOfMembers_ne_ok_of_missing {row : Row fields} (hnames : (fields.map (·.name)).Nodup)
    (hf : f ∈ fields) (hdefault : f.ifMissing = none) (hmissing : ∀ d, (.ok f.name, d) ∉ ms) :
    recordOfMembers fields dialect ms cut ≠ .ok row := by
  intro h
  obtain ⟨x, hx⟩ := exists_holds row hf
  rcases of_recordOfMembers hnames h hx with ⟨d, hmem, -⟩ | ⟨-, hor⟩
  · exact hmissing d hmem
  · rw [hdefault] at hor
    cases hor

/-! ## Fields given as items -/

variable {tooShort : Nat → Mismatch} {i : Nat} {x : f.Carrier} {more : Row fields}
  {ds surplus : List Document}

theorem row_cons_eq_ok_iff :
    row tooShort dialect cut i (f :: fields) (d :: ds) = .ok ((x, more), surplus) ↔
      f.decode dialect d = .ok x ∧
        row tooShort dialect cut (i + 1) fields ds = .ok (more, surplus) := by
  rw [row, Result.bind_eq_ok_iff]
  constructor
  · rintro ⟨y, hy, h⟩
    obtain ⟨⟨rest, left⟩, hrest, heq⟩ := Result.bind_eq_ok_iff.1 h
    cases heq
    exact ⟨Result.mapError_eq_ok_iff.1 hy, hrest⟩
  · rintro ⟨hx, hmore⟩
    exact ⟨x, Result.mapError_eq_ok_iff.2 hx, Result.bind_eq_ok_iff.2 ⟨_, hmore, rfl⟩⟩

theorem row_nil_eq_ok_iff :
    row tooShort dialect cut i (f :: fields) [] = .ok ((x, more), surplus) ↔
      cut = none ∧ f.ifShort = some x ∧
        row tooShort dialect cut (i + 1) fields [] = .ok (more, surplus) := by
  cases cut with
  | some fault => simp [row]
  | none =>
    cases hshort : f.ifShort with
    | none => simp [row, hshort]
    | some y =>
      simp only [row, hshort, Result.bind_eq_ok_iff]
      constructor
      · rintro ⟨⟨rest, left⟩, hrest, heq⟩
        cases heq
        exact ⟨trivial, rfl, hrest⟩
      · rintro ⟨-, heq, hmore⟩
        cases heq
        exact ⟨_, hmore, rfl⟩

/-- A structure is decoded from an array of its fields, behind which nothing but a configuration file
    may have further items. -/
theorem recordOfItems_eq_ok_iff {type : String} {values : Row fields} :
    recordOfItems type fields dialect ds cut = .ok values ↔
      ∃ surplus, row (fun i => .invalidLength i (wantedLength type fields.length)) dialect cut 0
          fields ds = .ok (values, surplus) ∧
        (surplus = [] ∧ cut = none ∨ surplus ≠ [] ∧ dialect = .toml) := by
  rw [recordOfItems, Result.bind_eq_ok_iff]
  constructor
  · rintro ⟨⟨row, surplus⟩, hrow, h⟩
    cases surplus with
    | nil =>
      cases cut with
      | some fault => cases h
      | none =>
        cases h
        exact ⟨[], hrow, .inl ⟨rfl, rfl⟩⟩
    | cons d surplus =>
      cases dialect with
      | toml =>
        cases h
        exact ⟨_, hrow, .inr ⟨List.cons_ne_nil d surplus, rfl⟩⟩
      | _ => cases h
  · rintro ⟨surplus, hrow, ⟨rfl, rfl⟩ | ⟨hsurplus, rfl⟩⟩
    · exact ⟨_, hrow, rfl⟩
    · refine ⟨_, hrow, ?_⟩
      cases surplus with
      | nil => exact absurd rfl hsurplus
      | cons d surplus => rfl

end Decoder

namespace Json

variable {α : Type}

/-- Whether a value is what the member of a name says in an object, and the default in an object
    without such a member. -/
def Gives (value : Json) (name : String) (decoder : Decoder α) (default x : α) : Prop :=
  ∀ members, value = .object members →
    (∃ item, (name, item) ∈ members ∧ item.decode decoder = .ok x) ∨
      (∀ item, (name, item) ∉ members) ∧ x = default

theorem mem_memberDocuments {members : List (String × Json)} :
    (.ok name, d) ∈ memberDocuments members ↔ ∃ item, (name, item) ∈ members ∧ item.toDocument = d := by
  induction members with
  | nil => simp [memberDocuments]
  | cons member members ih =>
    obtain ⟨key, item⟩ := member
    simp only [memberDocuments, List.mem_cons, ih]
    constructor
    · rintro (heq | ⟨other, hother, rfl⟩)
      · cases heq
        exact ⟨item, .inl rfl, rfl⟩
      · exact ⟨other, .inr hother, rfl⟩
    · rintro ⟨other, heq | hother, rfl⟩
      · cases heq
        exact .inl rfl
      · exact .inr ⟨other, hother, rfl⟩

theorem gives_of_recordOfMembers {row : Row fields} {x default : f.Carrier}
    {members : List (String × Json)} (hnames : (fields.map (·.name)).Nodup)
    (hdefault : f.ifMissing = some default)
    (h : Decoder.recordOfMembers fields .jsonValue (memberDocuments members) none = .ok row)
    (hx : row.Holds fields f x) : (Json.object members).Gives f.name f.decode default x := by
  intro given hgiven
  cases hgiven
  rcases Decoder.of_recordOfMembers hnames h hx with ⟨d, hmem, hd⟩ | ⟨hmissing, hor⟩
  · obtain ⟨item, hitem, rfl⟩ := mem_memberDocuments.1 hmem
    exact .inl ⟨item, hitem, hd⟩
  · refine .inr ⟨fun item hitem => ?_, Option.some.inj (hor.symm.trans hdefault)⟩
    exact hmissing _ (mem_memberDocuments.2 ⟨item, hitem, rfl⟩)

/-- A field without a default is decoded from a member of its name. -/
theorem exists_of_recordOfMembers {row : Row fields} {x : f.Carrier}
    {members : List (String × Json)} (hnames : (fields.map (·.name)).Nodup)
    (hdefault : f.ifMissing = none)
    (h : Decoder.recordOfMembers fields .jsonValue (memberDocuments members) none = .ok row)
    (hx : row.Holds fields f x) : ∃ item, (f.name, item) ∈ members ∧ item.decode f.decode = .ok x := by
  rcases Decoder.of_recordOfMembers hnames h hx with ⟨d, hmem, hd⟩ | ⟨-, hor⟩
  · obtain ⟨item, hitem, rfl⟩ := mem_memberDocuments.1 hmem
    exact ⟨item, hitem, hd⟩
  · rw [hdefault] at hor
    cases hor

end Json

end AssetOracle
