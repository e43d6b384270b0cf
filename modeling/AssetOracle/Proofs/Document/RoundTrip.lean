import AssetOracle.Proofs.Document.Faults
import AssetOracle.Proofs.Keyed
import Mathlib.Data.List.Basic

/-!
# Structures that are read back

A structure is decoded from an object if each of its fields is decoded from the member of its name,
or has its default where there is no such member (`Row.Reads`); the order of the members does not
matter (`decode_ofMembers`). So a decoder that gives back every part of a structure gives back the
structure (`Decoder.Inverts`).
-/

namespace AssetOracle

variable {fields : List Field} {f : Field} {dialect : Dialect} {name : String} {d : Document}
  {ms : List (String × Document)}

/-- Whether a field has a value if its member is this document, or is missing. -/
def Field.Reads (f : Field) (dialect : Dialect) : Option Document → f.Carrier → Prop
  | some d, x => f.decode dialect d = .ok x
  | none, x => f.ifMissing = some x

/-- Whether the fields have the values of a row if these are their members. -/
def Row.Reads (dialect : Dialect) (given : String → Option Document) :
    (fields : List Field) → Row fields → Prop
  | [], _ => True
  | f :: fs, (x, row) => f.Reads dialect (given f.name) x ∧ Reads dialect given fs row

/-- Whether slots become a row when members are met: a slot that has been met keeps its value, and
    any other is still to be met or has its default. -/
def Slots.LeadsTo (dialect : Dialect) (ms : List (String × Document)) :
    (fields : List Field) → Slots fields → Row fields → Prop
  | [], _, _ => True
  | f :: fs, (slot, slots), (x, row) =>
    (match slot with
      | some y => y = x ∧ Keyed.find? f.name ms = none
      | none => f.Reads dialect (Keyed.find? f.name ms) x) ∧ LeadsTo dialect ms fs slots row

namespace Slots

variable {slots : Slots fields} {row : Row fields}

theorem leadsTo_empty (h : Row.Reads dialect (Keyed.find? · ms) fields row) :
    LeadsTo dialect ms fields (empty fields) row := by
  induction fields with
  | nil => trivial
  | cons f fs ih =>
    obtain ⟨x, row⟩ := row
    exact ⟨h.1, ih h.2⟩

theorem complete_of_leadsTo (h : LeadsTo dialect [] fields slots row) :
    slots.complete fields = .ok row := by
  induction fields with
  | nil => rfl
  | cons f fs ih =>
    obtain ⟨slot, slots⟩ := slots
    obtain ⟨x, row⟩ := row
    obtain ⟨hslot, hrest⟩ := h
    have hvalue : slot.or f.ifMissing = some x := by
      cases slot with
      | none => exact hslot
      | some y => rw [hslot.1]; rfl
    rw [complete, hvalue, ih hrest]
    rfl

theorem leadsTo_of_unnamed (hname : ∀ f ∈ fields, f.name ≠ name)
    (h : LeadsTo dialect ((name, d) :: ms) fields slots row) :
    LeadsTo dialect ms fields slots row := by
  induction fields with
  | nil => trivial
  | cons f fs ih =>
    obtain ⟨slot, slots⟩ := slots
    obtain ⟨x, row⟩ := row
    obtain ⟨hf, hfs⟩ := List.forall_mem_cons.1 hname
    obtain ⟨hslot, hrest⟩ := h
    rw [Keyed.find?, if_neg (Ne.symm hf)] at hslot
    exact ⟨hslot, ih hfs hrest⟩

/-- Meeting the only member of a field leads to the same row, and so does a member of no field. -/
theorem exists_meet_of_leadsTo (hfields : (fields.map (·.name)).Nodup)
    (hname : ∀ f ∈ fields, f.name = name → name ∉ ms.map (·.1))
    (h : LeadsTo dialect ((name, d) :: ms) fields slots row) :
    (slots.meet dialect name d fields = none ∧ LeadsTo dialect ms fields slots row) ∨
      ∃ next, slots.meet dialect name d fields = some (.ok next) ∧
        LeadsTo dialect ms fields next row := by
  induction fields with
  | nil => exact .inl ⟨rfl, trivial⟩
  | cons f fs ih =>
    obtain ⟨slot, slots⟩ := slots
    obtain ⟨x, row⟩ := row
    obtain ⟨hf, hfs⟩ := List.nodup_cons.1 hfields
    obtain ⟨honce, honces⟩ := List.forall_mem_cons.1 hname
    obtain ⟨hslot, hrest⟩ := h
    rw [Keyed.find?] at hslot
    by_cases hhere : f.name = name
    · have hothers : ∀ g ∈ fs, g.name ≠ name := by
        intro g hg heq
        exact hf (List.mem_map.2 ⟨g, hg, heq.trans hhere.symm⟩)
      have hnext := leadsTo_of_unnamed hothers hrest
      rw [if_pos hhere.symm] at hslot
      cases slot with
      | some y => exact absurd hslot.2 (Option.some_ne_none d)
      | none =>
        have hdecode : f.decode dialect d = .ok x := hslot
        refine .inr ⟨(some x, slots), ?_, ⟨rfl, ?_⟩, hnext⟩
        · simp only [meet, if_pos hhere, hdecode]
          rfl
        · rw [hhere]
          exact Keyed.find?_eq_none (honce hhere)
    · rw [if_neg (Ne.symm hhere)] at hslot
      have hmeet : meet dialect name d (f :: fs) (slot, slots) =
          (meet dialect name d fs slots).map (·.map fun rest => (slot, rest)) := by
        cases slot <;> rw [meet, if_neg hhere] <;> rfl
      rcases ih hfs honces hrest with ⟨hnone, hsame⟩ | ⟨next, hsome, hnext⟩
      · exact .inl ⟨by rw [hmeet, hnone]; rfl, hslot, hsame⟩
      · exact .inr ⟨(slot, next), by rw [hmeet, hsome]; rfl, hslot, hnext⟩

end Slots

/-- Whether an object has at most one member for each field, and every other member of it can be
    skipped. -/
structure Document.Suits (fields : List Field) (ms : List (String × Document)) : Prop where
  once : ms.Pairwise fun a b => ∀ f ∈ fields, f.name = a.1 → a.1 ≠ b.1
  skipped : ∀ m ∈ ms, (∀ f ∈ fields, f.name ≠ m.1) → m.2.skipFault = none

namespace Decoder

variable {row : Row fields} {slots : Slots fields}

theorem members_of_leadsTo (hfields : (fields.map (·.name)).Nodup) (hms : Document.Suits fields ms)
    (h : slots.LeadsTo dialect ms fields row) :
    ∃ next, members fields dialect none (ms.map fun (name, d) => (.ok name, d)) slots = .ok next ∧
      next.complete fields = .ok row := by
  induction ms generalizing slots with
  | nil => exact ⟨slots, rfl, Slots.complete_of_leadsTo h⟩
  | cons m ms ih =>
    obtain ⟨name, d⟩ := m
    obtain ⟨hname, honce⟩ := List.pairwise_cons.1 hms.once
    obtain ⟨hd, hds⟩ := List.forall_mem_cons.1 hms.skipped
    have hfirst : ∀ f ∈ fields, f.name = name → name ∉ ms.map (·.1) := by
      intro f hf heq hmem
      obtain ⟨m, hm, hsame⟩ := List.mem_map.1 hmem
      exact hname m hm f hf heq hsame.symm
    rcases Slots.exists_meet_of_leadsTo hfields hfirst h with
      ⟨hmeet, hsame⟩ | ⟨next, hmeet, hnext⟩
    · obtain ⟨last, hlast, hrow⟩ := ih ⟨honce, hds⟩ hsame
      refine ⟨last, ?_, hrow⟩
      rw [List.map_cons, members, hmeet]
      simp only [hd fun f hf => Slots.name_ne_of_meet_eq_none hmeet hf, hlast]
    · obtain ⟨last, hlast, hrow⟩ := ih ⟨honce, hds⟩ hnext
      refine ⟨last, ?_, hrow⟩
      rw [List.map_cons, members, hmeet]
      exact hlast

/-- A structure is decoded from an object whose members give its fields their values. -/
theorem recordOfMembers_of_reads (hfields : (fields.map (·.name)).Nodup)
    (hms : Document.Suits fields ms) (h : Row.Reads dialect (Keyed.find? · ms) fields row) :
    recordOfMembers fields dialect (ms.map fun (name, d) => (.ok name, d)) none = .ok row := by
  obtain ⟨slots, hslots, hrow⟩ := members_of_leadsTo hfields hms (Slots.leadsTo_empty h)
  rw [recordOfMembers, hslots]
  exact hrow

end Decoder

/-! ## Values that were encoded -/

namespace Json

mutual

/-- A value is whole, so it can be kept. -/
theorem exists_keep_toDocument : ∀ value : Json, ∃ kept, value.toDocument.keep = .ok kept
  | .null => ⟨_, rfl⟩
  | .bool _ => ⟨_, rfl⟩
  | .number _ => ⟨_, rfl⟩
  | .text _ => ⟨_, rfl⟩
  | .array items => by
    obtain ⟨kept, hkept⟩ := exists_keepList_itemDocuments items
    exact ⟨.array kept, by rw [toDocument, Document.keep, hkept]; rfl⟩
  | .object members => by
    obtain ⟨kept, hkept⟩ := exists_keepObject_memberDocuments members []
    exact ⟨.object kept, by rw [toDocument, Document.keep, hkept]; rfl⟩

theorem exists_keepList_itemDocuments : ∀ items : List Json,
    ∃ kept, Document.keepList (itemDocuments items) none = .ok kept
  | [] => ⟨_, rfl⟩
  | item :: items => by
    obtain ⟨value, hvalue⟩ := exists_keep_toDocument item
    obtain ⟨values, hvalues⟩ := exists_keepList_itemDocuments items
    exact ⟨value :: values, by rw [itemDocuments, Document.keepList, hvalue, hvalues]; rfl⟩

theorem exists_keepObject_memberDocuments : ∀ (members before : List (String × Json)),
    ∃ kept, Document.keepObject before (memberDocuments members) none = .ok kept
  | [], before => ⟨before, rfl⟩
  | (name, item) :: members, before => by
    obtain ⟨value, hvalue⟩ := exists_keep_toDocument item
    obtain ⟨kept, hkept⟩ :=
      exists_keepObject_memberDocuments members (Keyed.put name value before)
    refine ⟨kept, ?_⟩
    rw [memberDocuments, Document.keepObject, hvalue]
    exact hkept

end

theorem skipFault_toDocument (value : Json) : value.toDocument.skipFault = none := by
  obtain ⟨kept, hkept⟩ := exists_keep_toDocument value
  exact Document.skipFault_of_keep hkept

theorem itemDocuments_eq_map (items : List Json) : itemDocuments items = items.map toDocument := by
  induction items with
  | nil => rfl
  | cons item items ih => rw [itemDocuments, ih, List.map_cons]

theorem memberDocuments_eq_map (members : List (String × Json)) :
    memberDocuments members =
      (members.map fun (name, j) => (name, j.toDocument)).map fun (name, d) => (.ok name, d) := by
  induction members with
  | nil => rfl
  | cons member members ih =>
    obtain ⟨name, j⟩ := member
    rw [memberDocuments, ih]
    rfl

theorem get?_ofMembers {members : List (String × Json)} (h : (members.map (·.1)).Nodup) :
    (ofMembers members).get? name = Keyed.find? name members :=
  Keyed.find?_ofList h

end Json

namespace Decoder

variable {α β : Type} {decode : Decoder α} {encode : α → Json}

theorem decode_object {type : String} {build : Row fields → α} {x : α}
    {members : List (String × Json)} (hfields : (fields.map (·.name)).Nodup)
    (hmembers : (members.map (·.1)).Nodup)
    (h : ∃ row, build row = x ∧
      Row.Reads dialect (fun name => (Keyed.find? name members).map Json.toDocument) fields row) :
    (record type fields).map build dialect (Json.object members).toDocument = .ok x := by
  obtain ⟨row, rfl, hrow⟩ := h
  have hdocument : (Json.object members).toDocument =
      .record (members.map fun (name, j) => (name, j.toDocument)) := by
    rw [Json.toDocument, Json.memberDocuments_eq_map]
    rfl
  have hfind : (Keyed.find? · (members.map fun (name, j) => (name, j.toDocument))) =
      fun name => (Keyed.find? name members).map Json.toDocument :=
    funext fun name => Keyed.find?_map Json.toDocument members
  have hsuits : Document.Suits fields (members.map fun (name, j) => (name, j.toDocument)) := by
    constructor
    · rw [List.pairwise_map]
      exact (List.pairwise_map.1 hmembers).imp fun hne _ _ _ => hne
    · intro m hm _
      obtain ⟨⟨name, j⟩, -, rfl⟩ := List.mem_map.1 hm
      exact j.skipFault_toDocument
  rw [map, hdocument, Document.record, record,
    recordOfMembers_of_reads hfields hsuits (by rwa [hfind])]
  rfl

/-- A structure is decoded from the object of members that give its fields their values. -/
theorem decode_ofMembers {type : String} {build : Row fields → α} {x : α}
    {members : List (String × Json)} (hfields : (fields.map (·.name)).Nodup)
    (hmembers : (members.map (·.1)).Nodup)
    (h : ∃ row, build row = x ∧
      Row.Reads dialect (fun name => (Keyed.find? name members).map Json.toDocument) fields row) :
    (record type fields).map build dialect (Json.ofMembers members).toDocument = .ok x := by
  refine decode_object hfields (Keyed.nodup_keys (Keyed.ascending_ofList members)) ?_
  simp only [Keyed.find?_ofList hmembers]
  exact h

/-- Whether a decoder gives back every value that was encoded. -/
def Inverts (decode : Decoder α) (encode : α → Json) : Prop :=
  ∀ dialect x, decode dialect (encode x).toDocument = .ok x

theorem inverts_text : text.Inverts .text := by
  intro dialect s
  rw [Json.toDocument, text]

theorem inverts_bool : bool.Inverts .bool := by
  intro dialect b
  rw [Json.toDocument, bool]

theorem integer_nat {low high : Int} {wanted : String} {n : Nat} (h : low ≤ n ∧ n ≤ high) :
    integer low high wanted dialect (Json.nat n).toDocument = .ok n := by
  rw [Json.nat, Json.toDocument, integer, if_pos h]

theorem inverts_short : short.Inverts fun n => .nat n.toNat := by
  intro dialect n
  have hsize := n.toNat_lt
  rw [short, map, integer_nat (by omega)]
  simp [Except.map]

theorem optional_of_ne_null {d : Document} (h : d ≠ .null) :
    optional decode dialect d = (decode dialect d).map some := by
  cases d with
  | null => exact absurd rfl h
  | _ => rfl

theorem inverts_list (h : decode.Inverts encode) :
    (list decode).Inverts fun xs => .array (xs.map encode) := by
  intro dialect xs
  have hitems : ∀ i, items decode dialect none i (Json.itemDocuments (xs.map encode)) = .ok xs := by
    induction xs with
    | nil => exact fun _ => rfl
    | cons x xs ih =>
      intro i
      rw [List.map_cons, Json.itemDocuments, items, h dialect x, ih (i + 1)]
      rfl
  rw [Json.toDocument, list, hitems]

end Decoder

end AssetOracle
