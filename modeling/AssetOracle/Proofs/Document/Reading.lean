import AssetOracle.Proofs.Document.Layout

/-!
# Reading by name

A decoder looks the members of an object up by their names. So a decoder that accepts a document
accepts every document that is alike, with a related value (`Decoder.Follows`). This passes through
all the ways in which decoders are made of others; a structure follows if its fields do, and a
`Reading` says what that takes of a field (`Reading.follows_record`).
-/

namespace AssetOracle

open Document (Alike Similar)

variable {α β : Type} {decode : Decoder α} {dialect : Dialect} {s : Shape} {d d' : Document}
  {R : α → α → Prop} {S : β → β → Prop} {cut : Option Fault}

/-- Whether a decoder that accepts a document accepts every document that is alike, with a related
    value. -/
def Decoder.Follows (decode : Decoder α) (s : Shape) (R : α → α → Prop) : Prop :=
  ∀ ⦃dialect d d' x⦄, Alike s d d' → decode dialect d = .ok x →
    ∃ x', decode dialect d' = .ok x' ∧ R x x'

namespace Decoder

/-- A decoder that accepts no array and no object depends on nothing that can differ. -/
theorem follows_of_ne_ok (harray : ∀ {dialect ds cut x}, decode dialect (.array ds cut) ≠ .ok x)
    (hobject : ∀ {dialect ms cut x}, decode dialect (.object ms cut) ≠ .ok x) :
    decode.Follows s Eq := by
  intro dialect d d' x halike hx
  cases halike with
  | scalar => exact ⟨x, hx, rfl⟩
  | array => exact absurd hx harray
  | object => exact absurd hx hobject

theorem follows_text : text.Follows s Eq := follows_of_ne_ok nofun nofun

theorem follows_bool : bool.Follows s Eq := follows_of_ne_ok nofun nofun

theorem follows_double : double.Follows s Eq := follows_of_ne_ok nofun nofun

theorem follows_integer (low high : Int) (wanted : String) :
    (integer low high wanted).Follows s Eq := follows_of_ne_ok nofun nofun

theorem Follows.map {f : α → β} (h : decode.Follows s R) (hf : ∀ x x', R x x' → S (f x) (f x')) :
    (decode.map f).Follows s S := by
  intro dialect d d' y halike hy
  obtain ⟨x, hx, rfl⟩ := Result.map_eq_ok_iff.1 hy
  obtain ⟨x', hx', hR⟩ := h halike hx
  exact ⟨f x', Result.map_eq_ok_iff.2 ⟨x', hx', rfl⟩, hf x x' hR⟩

theorem Follows.map_eq {f : α → β} (h : decode.Follows s Eq) : (decode.map f).Follows s Eq :=
  h.map fun _ _ heq => congrArg f heq

theorem follows_word : word.Follows s Eq := (follows_integer _ _ _).map_eq

theorem follows_index : index.Follows s Eq := (follows_integer _ _ _).map_eq

theorem Follows.optional (h : decode.Follows s R) :
    (optional decode).Follows s (Option.Rel R) := by
  intro dialect d d' x halike hx
  by_cases hnull : d = .null
  · subst hnull
    rw [halike.eq_of_isScalar trivial]
    cases hx
    exact ⟨none, rfl, .none⟩
  · have hnull' : d' ≠ .null := by
      rintro rfl
      exact hnull (halike.symm.eq_of_isScalar trivial)
    rw [optional_of_ne_null hnull] at hx
    rw [optional_of_ne_null hnull']
    obtain ⟨y, hy, rfl⟩ := Result.map_eq_ok_iff.1 hx
    obtain ⟨y', hy', hR⟩ := h halike hy
    exact ⟨some y', Result.map_eq_ok_iff.2 ⟨y', hy', rfl⟩, .some hR⟩

theorem Follows.optional_eq (h : decode.Follows s Eq) : (Decoder.optional decode).Follows s Eq := by
  intro dialect d d' x halike hx
  obtain ⟨x', hx', hrel⟩ := h.optional halike hx
  refine ⟨x', hx', ?_⟩
  cases hrel with
  | none => rfl
  | some heq => exact congrArg some heq

theorem follows_optional_text : (Decoder.optional text).Follows s Eq := follows_text.optional_eq

theorem items_of_alike (h : decode.Follows s Eq) {ds ds' : List Document} {xs : List α} {i : Nat}
    (hlength : ds.length = ds'.length)
    (halike : ∀ (k : Nat) d d', ds[k]? = some d → ds'[k]? = some d' → Alike s d d')
    (hxs : items decode dialect cut i ds = .ok xs) : items decode dialect cut i ds' = .ok xs := by
  induction ds generalizing ds' i xs with
  | nil =>
    cases List.length_eq_zero_iff.1 hlength.symm
    exact hxs
  | cons d ds ih =>
    cases ds' with
    | nil => cases hlength
    | cons d' ds' =>
      obtain ⟨x, hx, hrest⟩ := Result.bind_eq_ok_iff.1 hxs
      obtain ⟨more, hmore, hlist⟩ := Result.bind_eq_ok_iff.1 hrest
      cases hlist
      obtain ⟨x', hx', rfl⟩ := h (halike 0 d d' rfl rfl) (Result.mapError_eq_ok_iff.1 hx)
      have hmore' := ih (Nat.succ.inj hlength) (fun k => halike (k + 1)) hmore
      rw [items, hx', hmore']
      rfl

theorem Follows.list (h : decode.Follows s Eq) : (list decode).Follows (.list s) Eq := by
  intro dialect d d' x halike hx
  cases halike with
  | array hlength hitems => exact ⟨x, items_of_alike h hlength hitems hx, rfl⟩
  | object => cases hx
  | scalar hscalar =>
    unfold Decoder.list at hx
    split at hx
    · cases hscalar
    · exact absurd hx unexpected_ne_ok

theorem unitContent_of_alike (halike : Alike .whole d d')
    (h : unitContent dialect d = .ok ()) : unitContent dialect d' = .ok () := by
  cases halike with
  | scalar => exact h
  | @array _ items items' cut hlength =>
    cases dialect with
    | jsonText => cases h
    | jsonValue => cases h
    | toml =>
      cases items with
      | cons => cases h
      | nil =>
        obtain rfl := List.length_eq_zero_iff.1 hlength.symm
        rfl
  | @object _ ms ms' cut hsimilar =>
    cases dialect with
    | jsonText => cases h
    | jsonValue => cases h
    | toml =>
      cases ms with
      | cons => cases h
      | nil =>
        obtain rfl := hsimilar.eq_nil
        rfl

/-- A variant is named by an object with one member and nothing under it. -/
theorem variant_object_eq_ok_iff {variants : List (String × α)} {ms : Members} {x : α} :
    variant variants dialect (.object ms cut) = .ok x ↔ cut = none ∧
      ∃ name d, ms = [(.ok name, d)] ∧ variantNamed variants name = .ok x ∧
        unitContent dialect d = .ok () := by
  constructor
  · intro h
    cases ms with
    | nil => cases dialect <;> cases h
    | cons m rest =>
      obtain ⟨label, d⟩ := m
      rw [variant] at h
      split at h
      · cases dialect <;> cases h
      · obtain ⟨name, hname, hnamed⟩ := Result.bind_eq_ok_iff.1 h
        obtain ⟨value, hvalue, hfound⟩ := Result.bind_eq_ok_iff.1 hnamed
        obtain ⟨_, hcontent, hend⟩ := Result.bind_eq_ok_iff.1 hfound
        obtain rfl := Result.mapError_eq_ok_iff.1 hname
        split at hend
        · cases hend
          exact ⟨rfl, name, d, rfl, hvalue, hcontent⟩
        · cases hend
        · cases hend
  · rintro ⟨rfl, name, d, rfl, hvalue, hcontent⟩
    simp [variant, hvalue, hcontent, Except.mapError, bind, Except.bind, pure, Except.pure]

/-- What names a variant is looked at as a whole: there may be no further members. -/
theorem follows_variant (variants : List (String × α)) : (variant variants).Follows .whole Eq := by
  intro dialect d d' x halike hx
  cases halike with
  | scalar => exact ⟨x, hx, rfl⟩
  | array => cases dialect <;> cases hx
  | object hsimilar hmembers =>
    obtain ⟨rfl, name, e, rfl, hvalue, hcontent⟩ := variant_object_eq_ok_iff.1 hx
    obtain ⟨e', rfl⟩ := hsimilar.eq_singleton
    have hcontents := hmembers name e e' trivial (List.mem_singleton_self _)
      (List.mem_singleton_self _)
    exact ⟨x, variant_object_eq_ok_iff.2
      ⟨rfl, name, e', rfl, hvalue, unitContent_of_alike hcontents hcontent⟩, rfl⟩

/-- What is kept of documents that are alike is alike. -/
theorem follows_any : any.Follows s fun j j' => Alike s j.toDocument j'.toDocument := by
  intro dialect d d' j halike hj
  obtain ⟨j', hj', hkept⟩ := halike.exists_keep (Result.mapError_eq_ok_iff.1 hj)
  exact ⟨j', Result.mapError_eq_ok_iff.2 hj', hkept⟩

end Decoder

/-- A field as it is read by its name: the place of its member, and how the values that it gets from
    documents that are alike are related. A default is related to itself. -/
structure Reading where
  field : Field
  shape : Shape
  Agree : field.Carrier → field.Carrier → Prop
  follows : field.decode.Follows shape Agree
  missing : ∀ x, field.ifMissing = some x → Agree x x
  short : ∀ x, field.ifShort = some x → Agree x x

/-- Whether the values in two rows are related, field by field. -/
def Row.Agree : (readings : List Reading) → (row row' : Row (readings.map (·.field))) → Prop
  | [], _, _ => True
  | r :: rs, (x, row), (x', row') => r.Agree x x' ∧ Agree rs row row'

namespace Reading

variable {readings : List Reading} {r : Reading} {others : List (String × Shape)}
  {ms ms' : Members} {named : List (String × Document)}

/-- A field that gets the same value from documents that are alike. -/
def exact (field : Field) (shape : Shape) (h : field.decode.Follows shape Eq) : Reading :=
  ⟨field, shape, Eq, h, fun _ _ => rfl, fun _ _ => rfl⟩

/-- The place of a structure, of which others may read further names. -/
def place (readings : List Reading) (others : List (String × Shape)) : Shape :=
  .record (readings.map (fun r => (r.field.name, r.shape)) ++ others)

theorem reads_place (hr : r ∈ readings) : (place readings others).Reads r.field.name := by
  simp only [place, Shape.Reads, List.map_append, List.map_map, List.mem_append]
  exact .inl (List.mem_map.2 ⟨r, hr, rfl⟩)

theorem under_place (hnames : (readings.map (·.field.name)).Nodup) (hr : r ∈ readings) :
    (place readings others).under r.field.name = r.shape := by
  have hfind : Keyed.find? r.field.name
      (readings.map (fun r => (r.field.name, r.shape)) ++ others) = some r.shape := by
    induction readings with
    | nil => cases hr
    | cons first readings ih =>
      obtain ⟨hfirst, hrest⟩ := List.nodup_cons.1 hnames
      rw [List.map_cons, List.cons_append, Keyed.find?]
      rcases List.mem_cons.1 hr with rfl | hr
      · rw [if_pos rfl]
      · have hne : first.field.name ≠ r.field.name :=
          fun heq => hfirst (List.mem_map.2 ⟨r, hr, heq.symm⟩)
        rw [if_neg hne, ih hrest hr]
  rw [place, Shape.under, hfind]
  rfl

theorem item_place (others : List (String × Shape)) {i : Nat} (hr : readings[i]? = some r) :
    (place readings others).item i = r.shape := by
  have hbound : i < (readings.map fun r => (r.field.name, r.shape)).length := by
    rw [List.length_map]
    exact (List.getElem?_eq_some_iff.1 hr).1
  rw [place, Shape.item, List.getElem?_append_left hbound, List.getElem?_map, hr]
  rfl

/-! ## Structures given as objects -/

/-- The members of an object all of whose names can be read. -/
def members (named : List (String × Document)) : Members :=
  named.map fun (name, d) => (.ok name, d)

theorem mem_members {name : String} : (.ok name, d) ∈ members named ↔ (name, d) ∈ named := by
  simp [members]

theorem exists_named_of_readable (h : ∀ m ∈ ms, ∃ name, m.1 = .ok name) :
    ∃ named, ms = members named := by
  induction ms with
  | nil => exact ⟨[], rfl⟩
  | cons m ms ih =>
    obtain ⟨⟨name, hname⟩, hms⟩ := List.forall_mem_cons.1 h
    obtain ⟨named, rfl⟩ := ih hms
    obtain ⟨label, d⟩ := m
    cases hname
    exact ⟨(name, d) :: named, rfl⟩

/-- If every field can have a value that is related to the one that it has, there is a row of such
    values. -/
theorem exists_row_of_agree (given : String → Option Document)
    (row : Row (readings.map (·.field)))
    (h : ∀ r ∈ readings, ∀ x, row.Holds _ r.field x →
      ∃ x', r.field.Reads dialect (given r.field.name) x' ∧ r.Agree x x') :
    ∃ row', Row.Reads dialect given (readings.map (·.field)) row' ∧
      Row.Agree readings row row' := by
  induction readings with
  | nil => exact ⟨(), trivial, trivial⟩
  | cons r readings ih =>
    obtain ⟨x, row⟩ := row
    obtain ⟨hr, hreadings⟩ := List.forall_mem_cons.1 h
    obtain ⟨x', hx', hagree⟩ := hr x (.inl ⟨rfl, HEq.rfl⟩)
    obtain ⟨row', hrow', hagrees⟩ := ih row fun r hr x hx => hreadings r hr x (.inr hx)
    exact ⟨(x', row'), ⟨hx', hrow'⟩, hagree, hagrees⟩

/-- What nobody but others reads can be skipped if that is so in an object that is alike. -/
theorem suits_of_alike
    (halike : Alike (place readings others) (.object ms none) (.object (members named) none))
    (h : ∀ m ∈ ms, ∃ name, m.1 = .ok name ∧
      ((∀ f ∈ readings.map (·.field), f.name ≠ name) → m.2.skipFault = none)) :
    Document.Suits (readings.map (·.field)) named := by
  obtain ⟨hsimilar, hmembers⟩ := Document.alike_object_iff.1 halike
  constructor
  · refine (List.pairwise_map.1 hsimilar.once').imp fun {a b} hab f hf hname heq => ?_
    obtain ⟨r, hr, rfl⟩ := List.mem_map.1 hf
    have hread : (place readings others).Reads a.1 := hname ▸ reads_place hr
    exact hab a.1 hread rfl (congrArg Except.ok heq.symm)
  · rintro ⟨name, d'⟩ hm hnone
    have hd' : (.ok name, d') ∈ members named := mem_members.2 hm
    by_cases hname : (place readings others).Reads name
    · obtain ⟨d, hd⟩ := (hsimilar.given name hname).2 ⟨d', hd'⟩
      obtain ⟨other, heq, hskip⟩ := h _ hd
      cases heq
      exact (hmembers name d d' hname hd hd').skipFault_eq_none (hskip hnone)
    · refine hsimilar.skipped.1 (fun m hm hwants => ?_) _ hd' ?_
      · obtain ⟨other, hother, hskip⟩ := h m hm
        refine hskip fun f hf heq => hwants ⟨other, hother, ?_⟩
        obtain ⟨r, hr, rfl⟩ := List.mem_map.1 hf
        exact heq ▸ reads_place hr
      · rintro ⟨other, heq, hread⟩
        cases heq
        exact hname hread

/-- A field has related values in objects that are alike: both have a member for it, or neither. -/
theorem exists_value_of_alike (hnames : (readings.map (·.field.name)).Nodup)
    (halike : Alike (place readings others) (.object ms none) (.object (members named) none))
    (hr : r ∈ readings) {x : r.field.Carrier}
    (h : (∃ d, (.ok r.field.name, d) ∈ ms ∧ r.field.decode dialect d = .ok x) ∨
      (∀ d, (.ok r.field.name, d) ∉ ms) ∧ r.field.ifMissing = some x) :
    ∃ x', r.field.Reads dialect (Keyed.find? r.field.name named) x' ∧ r.Agree x x' := by
  obtain ⟨hsimilar, hmembers⟩ := Document.alike_object_iff.1 halike
  have hread : (place readings others).Reads r.field.name := reads_place hr
  have hgiven := hsimilar.given r.field.name hread
  cases hfind : Keyed.find? r.field.name named with
  | none =>
    have hmissing' : ¬∃ d', (.ok r.field.name, d') ∈ members named :=
      fun ⟨d', hd'⟩ => Keyed.not_mem_of_find? hfind d' (mem_members.1 hd')
    rcases h with ⟨d, hd, -⟩ | ⟨-, hdefault⟩
    · exact absurd (hgiven.1 ⟨d, hd⟩) hmissing'
    · exact ⟨x, hdefault, r.missing x hdefault⟩
  | some d' =>
    have hd' : (.ok r.field.name, d') ∈ members named :=
      mem_members.2 (Keyed.mem_of_find? hfind)
    rcases h with ⟨d, hd, hdecode⟩ | ⟨hmissing, -⟩
    · -- the member that is found need not be at the same place as the one that was decoded
      have hplace := hmembers _ d d' hread hd hd'
      rw [under_place hnames hr] at hplace
      exact r.follows hplace hdecode
    · obtain ⟨d, hd⟩ := hgiven.2 ⟨d', hd'⟩
      exact absurd hd (hmissing d)

/-- A structure is decoded from an object if it is decoded from one that is alike. -/
theorem recordOfMembers_of_alike (readings : List Reading) (others : List (String × Shape))
    (hnames : (readings.map (·.field.name)).Nodup) {row : Row (readings.map (·.field))}
    (halike : Alike (place readings others) (.object ms cut) (.object ms' cut))
    (h : Decoder.recordOfMembers (readings.map (·.field)) dialect ms cut = .ok row) :
    ∃ row', Decoder.recordOfMembers (readings.map (·.field)) dialect ms' cut = .ok row' ∧
      Row.Agree readings row row' := by
  have hfields : ((readings.map (·.field)).map (·.name)).Nodup := by
    rw [List.map_map]
    exact hnames
  obtain ⟨slots, hslots, -⟩ := Result.bind_eq_ok_iff.1 h
  obtain ⟨rfl, hwhole⟩ := Decoder.whole_of_members hslots
  have hreadable : ∀ m ∈ ms, ∃ name, m.1 = .ok name :=
    fun m hm => (hwhole m hm).imp fun _ hname => hname.1
  obtain ⟨named, rfl⟩ :=
    exists_named_of_readable ((Document.alike_object_iff.1 halike).1.readable.1 hreadable)
  obtain ⟨row', hrow', hagree⟩ := exists_row_of_agree (Keyed.find? · named) row fun r hr x hx =>
    exists_value_of_alike hnames halike hr (Decoder.of_recordOfMembers hfields h hx)
  exact ⟨row', Decoder.recordOfMembers_of_reads hfields (suits_of_alike halike hwhole) hrow',
    hagree⟩

/-! ## Structures -/

/-- The fields that are given as items, by induction on the fields. -/
theorem row_of_alike {tooShort : Nat → Mismatch} {ds ds' surplus : List Document} {i : Nat}
    {row : Row (readings.map (·.field))} (hlength : ds.length = ds'.length)
    (halike : ∀ (k : Nat) r d d', readings[k]? = some r → ds[k]? = some d → ds'[k]? = some d' →
      Alike r.shape d d')
    (h : Decoder.row tooShort dialect cut i (readings.map (·.field)) ds = .ok (row, surplus)) :
    ∃ row' surplus',
      Decoder.row tooShort dialect cut i (readings.map (·.field)) ds' = .ok (row', surplus') ∧
        Row.Agree readings row row' ∧ surplus.length = surplus'.length := by
  induction readings generalizing ds ds' i surplus with
  | nil =>
    cases h
    exact ⟨(), ds', rfl, trivial, hlength⟩
  | cons r readings ih =>
    obtain ⟨x, row⟩ := row
    cases ds with
    | cons d ds =>
      cases ds' with
      | nil => cases hlength
      | cons d' ds' =>
        obtain ⟨hx, hrow⟩ := Decoder.row_cons_eq_ok_iff.1 h
        obtain ⟨x', hx', hagree⟩ := r.follows (halike 0 r d d' rfl rfl rfl) hx
        obtain ⟨row', surplus', hrow', hagrees, hsurplus⟩ :=
          ih (Nat.succ.inj hlength) (fun k => halike (k + 1)) hrow
        exact ⟨(x', row'), surplus', Decoder.row_cons_eq_ok_iff.2 ⟨hx', hrow'⟩, ⟨hagree, hagrees⟩,
          hsurplus⟩
    | nil =>
      cases List.length_eq_zero_iff.1 hlength.symm
      obtain ⟨hcut, hx, hrow⟩ := Decoder.row_nil_eq_ok_iff.1 h
      obtain ⟨row', surplus', hrow', hagrees, hsurplus⟩ :=
        ih rfl (fun _ _ _ _ _ hd => by cases hd) hrow
      exact ⟨(x, row'), surplus', Decoder.row_nil_eq_ok_iff.2 ⟨hcut, hx, hrow'⟩,
        ⟨r.short x hx, hagrees⟩, hsurplus⟩

theorem recordOfItems_of_alike {type : String} {ds ds' : List Document}
    {row : Row (readings.map (·.field))}
    (halike : Alike (place readings others) (.array ds cut) (.array ds' cut))
    (h : Decoder.recordOfItems type (readings.map (·.field)) dialect ds cut = .ok row) :
    ∃ row', Decoder.recordOfItems type (readings.map (·.field)) dialect ds' cut = .ok row' ∧
      Row.Agree readings row row' := by
  cases halike with
  | scalar hscalar => cases hscalar
  | array hlength hitems =>
    obtain ⟨surplus, hrow, hend⟩ := Decoder.recordOfItems_eq_ok_iff.1 h
    obtain ⟨row', surplus', hrow', hagree, hsurplus⟩ := row_of_alike hlength
      (fun k r d d' hr hd hd' => item_place others hr ▸ hitems k d d' hd hd') hrow
    have hnil : surplus' = [] ↔ surplus = [] := by
      rw [← List.length_eq_zero_iff, ← List.length_eq_zero_iff, hsurplus]
    refine ⟨row', Decoder.recordOfItems_eq_ok_iff.2 ⟨surplus', hrow', ?_⟩, hagree⟩
    rwa [Ne, hnil]

/-- A structure is decoded from a document if it is decoded from one that is alike, and its fields
    have related values. -/
theorem follows_record (readings : List Reading) (type : String) (others : List (String × Shape))
    (hnames : (readings.map (·.field.name)).Nodup) :
    (Decoder.record type (readings.map (·.field))).Follows (place readings others)
      (Row.Agree readings) := by
  intro dialect d d' row halike hrow
  cases halike with
  | array hlength hitems => exact recordOfItems_of_alike (.array hlength hitems) hrow
  | object hsimilar hmembers =>
    exact recordOfMembers_of_alike readings others hnames (.object hsimilar hmembers) hrow
  | scalar hscalar =>
    unfold Decoder.record at hrow
    split at hrow
    · cases hscalar
    · cases hscalar
    · exact absurd hrow Decoder.unexpected_ne_ok

/-- Whether a field has equal values in documents that are alike. -/
def IsExact (r : Reading) : Prop := ∀ x x', r.Agree x x' → x = x'

theorem eq_of_agree (h : ∀ r ∈ readings, r.IsExact) {row row' : Row (readings.map (·.field))}
    (hagree : Row.Agree readings row row') : row = row' := by
  induction readings with
  | nil => rfl
  | cons r readings ih =>
    obtain ⟨x, row⟩ := row
    obtain ⟨x', row'⟩ := row'
    obtain ⟨hr, hreadings⟩ := List.forall_mem_cons.1 h
    exact Prod.ext (hr x x' hagree.1) (ih hreadings hagree.2)

theorem follows_record_eq (readings : List Reading) (type : String) (others : List (String × Shape))
    (hnames : (readings.map (·.field.name)).Nodup) (h : ∀ r ∈ readings, r.IsExact) :
    (Decoder.record type (readings.map (·.field))).Follows (place readings others) Eq := by
  intro dialect d d' row halike hrow
  obtain ⟨row', hrow', hagree⟩ := follows_record readings type others hnames halike hrow
  exact ⟨row', hrow', eq_of_agree h hagree⟩

end Reading

namespace Json

variable {value value' : Json} {name t : String}

theorem eq_text_of_text?_bind {item? : Option Json} (h : item?.bind text? = some t) :
    item? = some (.text t) := by
  obtain ⟨item, rfl, htext⟩ := Option.bind_eq_some_iff.1 h
  cases item <;> cases htext
  rfl

/-- A text under a name that is read is the same in values that are alike. -/
theorem text_get?_of_alike (h : Alike s value.toDocument value'.toDocument) (hname : s.Reads name)
    (htext : (value.get? name).bind text? = some t) :
    (value'.get? name).bind text? = some t := by
  have hget := eq_text_of_text?_bind htext
  cases value with
  | object table =>
    obtain ⟨ms', hobject⟩ := h.exists_object
    cases value' with
    | object table' =>
      obtain ⟨hsimilar, hmembers⟩ := Document.alike_object_iff.1 h
      have hmem : (.ok name, (Json.text t).toDocument) ∈ memberDocuments table :=
        mem_memberDocuments.2 ⟨_, Keyed.mem_of_find? hget, rfl⟩
      cases hfind : Keyed.find? name table' with
      | none =>
        obtain ⟨d', hd'⟩ := (hsimilar.given name hname).1 ⟨_, hmem⟩
        obtain ⟨item, hitem, -⟩ := mem_memberDocuments.1 hd'
        exact absurd hitem (Keyed.not_mem_of_find? hfind item)
      | some item =>
        have hmem' : (.ok name, item.toDocument) ∈ memberDocuments table' :=
          mem_memberDocuments.2 ⟨_, Keyed.mem_of_find? hfind, rfl⟩
        have hitem := (hmembers name _ _ hname hmem hmem').eq_of_isScalar trivial
        simp only [get?, hfind]
        cases item <;> cases hitem
        rfl
    | _ => cases hobject
  | _ => cases hget

end Json

end AssetOracle
