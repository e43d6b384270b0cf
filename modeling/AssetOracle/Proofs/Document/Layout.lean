import AssetOracle.Proofs.Document.Faults
import AssetOracle.Proofs.Document.RoundTrip
import Mathlib.Data.List.Pairwise

/-!
# The layout of documents

Two documents may say the same to whoever reads some of their members by name, although the members
of their objects come in another order and further members are there (`Relaid`). What a reader can
tell apart is less than that: which members of the names that it reads there are, whether every name
can be read, and whether what it does not read is fit to be skipped or kept (`Alike`). Documents
without repeated names that differ in their layout only are alike (`Relaid.alike`), and they stay
so when they are kept (`Alike.keep`).
-/

namespace AssetOracle

/-- The members of an object, as they are read. -/
abbrev Members := List (Except Fault String × Document)

/-- Which names are read at which place of a document. A structure has a place for each of its
    fields, and no name is read at the other places; where a document is looked at as a whole, every
    name is. -/
inductive Shape where
  | list (item : Shape)
  | record (fields : List (String × Shape))
  | whole

namespace Shape

/-- A place at which no name is read. -/
def free : Shape := .record []

/-- Whether the member of a name is read. -/
def Reads : Shape → String → Prop
  | .list _, _ => False
  | .record fields, name => name ∈ fields.map (·.1)
  | .whole, _ => True

/-- The place under a name. -/
def under : Shape → String → Shape
  | .list _, _ => free
  | .record fields, name => (Keyed.find? name fields).getD free
  | .whole, _ => whole

/-- The place under a name that may not be readable. -/
def behind (s : Shape) : Except Fault String → Shape
  | .ok name => s.under name
  | .error _ => free

/-- The place of an item; the fields of a structure may be given as items. -/
def item : Shape → Nat → Shape
  | .list s, _ => s
  | .record fields, i => (fields[i]?.map (·.2)).getD free
  | .whole, _ => whole

/-- Whether a member has a name that is read. -/
def Wants (s : Shape) (m : Except Fault String × Document) : Prop :=
  ∃ name, m.1 = .ok name ∧ s.Reads name

/-- Whether members of names that are read have different names. -/
def Once (s : Shape) (ms : Members) : Prop :=
  ms.Pairwise fun a b => ∀ name, s.Reads name → a.1 = .ok name → b.1 ≠ .ok name

instance (s : Shape) : Std.Symm fun a b : Except Fault String × Document =>
    ∀ name, s.Reads name → a.1 = .ok name → b.1 ≠ .ok name :=
  ⟨fun _ _ hab name hname hb ha => hab name hname ha hb⟩

/-- A name that is read has one value. -/
theorem Once.eq {s : Shape} {ms : Members} {name : String} {d e : Document} (h : s.Once ms)
    (hname : s.Reads name) (hd : (.ok name, d) ∈ ms) (he : (.ok name, e) ∈ ms) : d = e := by
  by_contra hne
  have hmembers : (.ok name, d) ≠ ((.ok name, e) : Except Fault String × Document) :=
    fun heq => hne (Prod.mk.inj heq).2
  exact List.Pairwise.forall h hd he hmembers name hname rfl rfl

end Shape

namespace Document

/-- Whether no object in a document has two members of one name. -/
inductive Distinct : Document → Prop where
  | null : Distinct .null
  | bool (b : Bool) : Distinct (.bool b)
  | number (n : Number) : Distinct (.number n)
  | text (t : String) : Distinct (.text t)
  | broken (kept : Fault) (skipped : Option Fault) : Distinct (.broken kept skipped)
  | array {items : List Document} {cut : Option Fault} (h : ∀ d ∈ items, Distinct d) :
    Distinct (.array items cut)
  | object {ms : Members} {cut : Option Fault}
    (hnames : ms.Pairwise fun a b => ∀ name, a.1 = .ok name → b.1 ≠ .ok name)
    (h : ∀ m ∈ ms, Distinct m.2) : Distinct (.object ms cut)

/-- Whether a document is neither an array nor an object. -/
def IsScalar : Document → Prop
  | .array .. => False
  | .object .. => False
  | _ => True

/-- Whether a document can be kept, and so is well formed and not nested too deeply. -/
def Fit (d : Document) : Prop := d.keepFault = none

/-- Whether one document is another with the members of its objects in any order and with further
    members, of names that are not read and with values that can be kept. -/
inductive Relaid : Shape → Document → Document → Prop where
  | scalar {s : Shape} {d : Document} (h : d.IsScalar) : Relaid s d d
  | array {s : Shape} (pairs : List (Document × Document))
    (h : ∀ i d d', pairs[i]? = some (d, d') → Relaid (s.item i) d d') :
    Relaid s (.array (pairs.map (·.1)) none) (.array (pairs.map (·.2)) none)
  | object {s : Shape} (pairs : List (Except Fault String × Document × Document))
    (added : Members) {ms' : Members}
    (hadded : ∀ m ∈ added, ∃ name, m.1 = .ok name ∧ ¬s.Reads name ∧ m.2.Fit)
    (horder : ms'.Perm (pairs.map (fun p => (p.1, p.2.2)) ++ added))
    (h : ∀ name d d', (name, d, d') ∈ pairs → Relaid (s.behind name) d d') :
    Relaid s (.object (pairs.map fun p => (p.1, p.2.1)) none) (.object ms' none)

/-- What two objects have in common apart from the values of the members that are read. -/
structure Similar (s : Shape) (ms ms' : Members) : Prop where
  readable : (∀ m ∈ ms, ∃ name, m.1 = .ok name) ↔ ∀ m ∈ ms', ∃ name, m.1 = .ok name
  skipped : (∀ m ∈ ms, ¬s.Wants m → m.2.skipFault = none) ↔
    ∀ m ∈ ms', ¬s.Wants m → m.2.skipFault = none
  kept : (∀ m ∈ ms, ¬s.Wants m → m.2.Fit) ↔ ∀ m ∈ ms', ¬s.Wants m → m.2.Fit
  once : s.Once ms
  once' : s.Once ms'
  given : ∀ name, s.Reads name → ((∃ d, (.ok name, d) ∈ ms) ↔ ∃ d, (.ok name, d) ∈ ms')

/-- Whether two documents say the same to a reader. -/
inductive Alike : Shape → Document → Document → Prop where
  | scalar {s : Shape} {d : Document} (h : d.IsScalar) : Alike s d d
  | array {s : Shape} {items items' : List Document} {cut : Option Fault}
    (hlength : items.length = items'.length)
    (h : ∀ i d d', items[i]? = some d → items'[i]? = some d' → Alike (s.item i) d d') :
    Alike s (.array items cut) (.array items' cut)
  | object {s : Shape} {ms ms' : Members} {cut : Option Fault} (hsimilar : Similar s ms ms')
    (h : ∀ name d d', s.Reads name → (.ok name, d) ∈ ms → (.ok name, d') ∈ ms' →
      Alike (s.under name) d d') : Alike s (.object ms cut) (.object ms' cut)

variable {s : Shape} {d d' : Document} {ms ms' : Members} {name : String}

theorem Similar.symm (h : Similar s ms ms') : Similar s ms' ms where
  readable := h.readable.symm
  skipped := h.skipped.symm
  kept := h.kept.symm
  once := h.once'
  once' := h.once
  given name hname := (h.given name hname).symm

theorem Alike.symm (h : Alike s d d') : Alike s d' d := by
  induction h with
  | scalar h => exact .scalar h
  | array hlength _ ih => exact .array hlength.symm fun i d d' hd hd' => ih i d' d hd' hd
  | object hsimilar _ ih =>
    exact .object hsimilar.symm fun name d d' hname hd hd' => ih name d' d hname hd' hd

/-- A scalar is alike to itself only. -/
theorem Alike.eq_of_isScalar (h : Alike s d d') (hd : d.IsScalar) : d' = d := by
  cases h with
  | scalar => rfl
  | array => cases hd
  | object => cases hd

/-- An object is alike to objects only. -/
theorem Alike.exists_object {cut : Option Fault} (h : Alike s (.object ms cut) d') :
    ∃ ms', d' = .object ms' cut := by
  cases h with
  | scalar h => cases h
  | object => exact ⟨_, rfl⟩

/-- Where every name is read, an object without members is similar to itself only. -/
theorem Similar.eq_nil (h : Similar .whole [] ms') : ms' = [] := by
  refine List.eq_nil_iff_forall_not_mem.2 fun m hm => ?_
  obtain ⟨label, d'⟩ := m
  obtain ⟨name, rfl⟩ := h.readable.1 (List.forall_mem_nil _) _ hm
  obtain ⟨d, hd⟩ := (h.given name trivial).2 ⟨d', hm⟩
  cases hd

/-- Where every name is read, an object with one member is similar to those with one of this
    name. -/
theorem Similar.eq_singleton (h : Similar .whole [(.ok name, d)] ms') :
    ∃ d', ms' = [(.ok name, d')] := by
  have hreadable := h.readable.1 (List.forall_mem_singleton.2 ⟨name, rfl⟩)
  have hname : ∀ m ∈ ms', m.1 = .ok name := by
    rintro ⟨label, e⟩ hm
    obtain ⟨other, rfl⟩ := hreadable _ hm
    obtain ⟨d, hd⟩ := (h.given other trivial).2 ⟨e, hm⟩
    exact (Prod.mk.inj (List.mem_singleton.1 hd)).1
  obtain ⟨d', hd'⟩ := (h.given name trivial).1 ⟨d, List.mem_singleton_self _⟩
  have honce := h.once'
  cases ms' with
  | nil => cases hd'
  | cons first rest =>
    obtain ⟨label, e⟩ := first
    obtain rfl : label = .ok name := hname _ List.mem_cons_self
    cases rest with
    | nil => exact ⟨e, rfl⟩
    | cons second rest =>
      have hsecond : second.1 = .ok name := hname _ (List.mem_cons_of_mem _ List.mem_cons_self)
      exact absurd hsecond
        (List.rel_of_pairwise_cons honce List.mem_cons_self name trivial rfl)

theorem alike_object_iff {cut : Option Fault} :
    Alike s (.object ms cut) (.object ms' cut) ↔
      Similar s ms ms' ∧ ∀ name d d', s.Reads name → (.ok name, d) ∈ ms → (.ok name, d') ∈ ms' →
        Alike (s.under name) d d' := by
  constructor
  · intro h
    cases h with
    | scalar h => cases h
    | object hsimilar hmembers => exact ⟨hsimilar, hmembers⟩
  · exact fun ⟨hsimilar, hmembers⟩ => .object hsimilar hmembers

/-! ## Faults -/

theorem skipItems_eq_none_iff {items : List Document} {cut : Option Fault} :
    skipItems items cut = none ↔ cut = none ∧ ∀ d ∈ items, d.skipFault = none := by
  induction items with
  | nil => simp [skipItems]
  | cons d items ih =>
    rw [skipItems, Option.or_eq_none_iff, ih, List.forall_mem_cons]
    exact and_left_comm

theorem skipMembers_eq_none_iff {cut : Option Fault} :
    skipMembers ms cut = none ↔ cut = none ∧ ∀ m ∈ ms, m.2.skipFault = none := by
  induction ms with
  | nil => simp [skipMembers]
  | cons m ms ih =>
    rw [skipMembers, Option.or_eq_none_iff, ih, List.forall_mem_cons]
    exact and_left_comm

theorem keepItems_eq_none_iff {items : List Document} {cut : Option Fault} :
    keepItems items cut = none ↔ cut = none ∧ ∀ d ∈ items, d.Fit := by
  induction items with
  | nil => simp [keepItems]
  | cons d items ih =>
    rw [keepItems, Option.or_eq_none_iff, ih, List.forall_mem_cons]
    exact and_left_comm

theorem keepMembers_eq_none_iff {cut : Option Fault} :
    keepMembers ms cut = none ↔
      cut = none ∧ ∀ m ∈ ms, (∃ name, m.1 = .ok name) ∧ m.2.Fit := by
  induction ms with
  | nil => simp [keepMembers]
  | cons m ms ih =>
    obtain ⟨name, d⟩ := m
    cases name with
    | error fault => simp [keepMembers]
    | ok name =>
      rw [keepMembers, Option.or_eq_none_iff, ih, List.forall_mem_cons]
      simp only [Except.ok.injEq, exists_eq', true_and]
      exact and_left_comm

/-- What holds of scalars, and of arrays and objects whose parts it holds of, holds of every
    document. -/
@[elab_as_elim]
theorem induct {P : Document → Prop} (scalar : ∀ d : Document, d.IsScalar → P d)
    (array : ∀ items cut, (∀ d ∈ items, P d) → P (.array items cut))
    (object : ∀ ms cut, (∀ m ∈ ms, P m.2) → P (.object ms cut)) (d : Document) : P d :=
  match d with
  | .null => scalar _ trivial
  | .bool _ => scalar _ trivial
  | .number _ => scalar _ trivial
  | .text _ => scalar _ trivial
  | .broken .. => scalar _ trivial
  | .array items cut => array items cut fun d _ => induct scalar array object d
  | .object ms cut => object ms cut fun m _ => induct scalar array object m.2
termination_by sizeOf d
decreasing_by
  · have := List.sizeOf_lt_of_mem ‹d ∈ items›
    simp only [Document.array.sizeOf_spec]
    omega
  · have := List.sizeOf_lt_of_mem ‹m ∈ ms›
    obtain ⟨name, d⟩ := m
    simp only [Document.object.sizeOf_spec, Prod.mk.sizeOf_spec] at *
    omega

theorem keepList_eq_ok_iff {items : List Document} {cut : Option Fault} {js : List Json} :
    keepList items cut = .ok js ↔ cut = none ∧ items.map keep = js.map .ok := by
  induction items generalizing js with
  | nil => cases cut <;> cases js <;> simp [keepList]
  | cons d items ih =>
    rw [keepList, Result.bind_eq_ok_iff]
    constructor
    · rintro ⟨j, hj, h⟩
      obtain ⟨more, hmore, hjs⟩ := Result.bind_eq_ok_iff.1 h
      cases hjs
      obtain ⟨hcut, hitems⟩ := ih.1 hmore
      exact ⟨hcut, by rw [List.map_cons, List.map_cons, hj, hitems]⟩
    · rintro ⟨hcut, h⟩
      cases js with
      | nil => cases h
      | cons j more =>
        obtain ⟨hj, hitems⟩ := List.cons_eq_cons.1 h
        exact ⟨j, hj, Result.bind_eq_ok_iff.2 ⟨more, ih.2 ⟨hcut, hitems⟩, rfl⟩⟩

theorem exists_keepList_iff {items : List Document} {cut : Option Fault} :
    (∃ js, keepList items cut = .ok js) ↔ cut = none ∧ ∀ d ∈ items, ∃ j, d.keep = .ok j := by
  induction items with
  | nil => cases cut <;> simp [keepList]
  | cons d items ih =>
    rw [keepList, List.forall_mem_cons, and_left_comm, ← ih]
    cases hkeep : d.keep with
    | error fault => simp [bind, Except.bind]
    | ok j => cases hitems : keepList items cut <;> simp [bind, Except.bind, pure, Except.pure]

/-- Whether a member can be kept. -/
def Keeps (m : Except Fault String × Document) : Prop :=
  (∃ name, m.1 = .ok name) ∧ ∃ j, m.2.keep = .ok j

theorem exists_keepObject_iff {cut : Option Fault} {before : List (String × Json)} :
    (∃ table, keepObject before ms cut = .ok table) ↔ cut = none ∧ ∀ m ∈ ms, Keeps m := by
  induction ms generalizing before with
  | nil => cases cut <;> simp [keepObject]
  | cons m ms ih =>
    obtain ⟨name, d⟩ := m
    rw [List.forall_mem_cons]
    cases name with
    | error fault => simp [keepObject, Keeps]
    | ok name =>
      rw [keepObject]
      cases hkeep : d.keep with
      | error fault => simp [Keeps, hkeep, bind, Except.bind]
      | ok j =>
        have hfirst : Keeps (.ok name, d) := ⟨⟨name, rfl⟩, j, hkeep⟩
        simp only [hfirst, true_and]
        exact ih

/-- What is fit can be kept, and nothing else. -/
theorem fit_iff (d : Document) : d.Fit ↔ ∃ j, d.keep = .ok j := by
  induction d using induct with
  | scalar d h => cases d <;> simp_all [Fit, keepFault, keep, IsScalar]
  | array items cut ih =>
    rw [Fit, keepFault, keepItems_eq_none_iff, keep, Result.exists_map_eq_ok_iff, exists_keepList_iff]
    exact and_congr_right fun _ => forall₂_congr ih
  | object ms cut ih =>
    rw [Fit, keepFault, keepMembers_eq_none_iff, keep, Result.exists_map_eq_ok_iff, exists_keepObject_iff]
    exact and_congr_right fun _ => forall₂_congr fun m hm => and_congr_right fun _ => ih m hm

theorem skipFault_of_fit (h : d.Fit) : d.skipFault = none := by
  obtain ⟨j, hj⟩ := (fit_iff d).1 h
  exact skipFault_of_keep hj

/-! ## Documents that are alike -/

/-- What holds of the items of one array holds of those of another if it passes from item to
    item. -/
theorem forall_items_of {P : Document → Prop} {items items' : List Document}
    (hlength : items.length = items'.length)
    (h : ∀ (i : Nat) d d', items[i]? = some d → items'[i]? = some d' → P d → P d')
    (hitems : ∀ d ∈ items, P d) : ∀ d ∈ items', P d := by
  intro d' hd'
  obtain ⟨i, hi⟩ := List.mem_iff_getElem?.1 hd'
  have hbound : i < items.length := by
    rw [hlength]
    exact (List.getElem?_eq_some_iff.1 hi).1
  have hd := List.getElem?_eq_getElem hbound
  exact h i _ d' hd hi (hitems _ (List.mem_of_getElem? hd))

/-- What holds of the members of one object holds of those of another if it passes from member to
    member of the names that are read, and from all other members to all others. -/
theorem Similar.forall_members_of {P : Document → Prop} (hsimilar : Similar s ms ms')
    (hrest : (∀ m ∈ ms, ¬s.Wants m → P m.2) → ∀ m ∈ ms', ¬s.Wants m → P m.2)
    (hread : ∀ name d d', s.Reads name → (.ok name, d) ∈ ms → (.ok name, d') ∈ ms' → P d → P d')
    (h : ∀ m ∈ ms, P m.2) : ∀ m ∈ ms', P m.2 := by
  intro m' hm'
  by_cases hwants : s.Wants m'
  · obtain ⟨label, d'⟩ := m'
    obtain ⟨name, rfl, hname⟩ := hwants
    obtain ⟨d, hd⟩ := (hsimilar.given name hname).2 ⟨d', hm'⟩
    exact hread name d d' hname hd hm' (h _ hd)
  · exact hrest (fun m hm _ => h m hm) m' hm' hwants

theorem Alike.fit (h : Alike s d d') (hfit : d.Fit) : d'.Fit := by
  induction h with
  | scalar => exact hfit
  | array hlength _ ih =>
    obtain ⟨hcut, hitems⟩ := keepItems_eq_none_iff.1 hfit
    exact keepItems_eq_none_iff.2 ⟨hcut, forall_items_of hlength ih hitems⟩
  | object hsimilar _ ih =>
    obtain ⟨hcut, hms⟩ := keepMembers_eq_none_iff.1 hfit
    have hnames := hsimilar.readable.1 fun m hm => (hms m hm).1
    have hvalues := hsimilar.forall_members_of hsimilar.kept.1 ih fun m hm => (hms m hm).2
    exact keepMembers_eq_none_iff.2 ⟨hcut, fun m hm => ⟨hnames m hm, hvalues m hm⟩⟩

theorem Alike.skipFault_eq_none (h : Alike s d d') (hskip : d.skipFault = none) :
    d'.skipFault = none := by
  induction h with
  | scalar => exact hskip
  | array hlength _ ih =>
    obtain ⟨hcut, hitems⟩ := skipItems_eq_none_iff.1 hskip
    exact skipItems_eq_none_iff.2 ⟨hcut, forall_items_of hlength ih hitems⟩
  | object hsimilar _ ih =>
    obtain ⟨hcut, hms⟩ := skipMembers_eq_none_iff.1 hskip
    exact skipMembers_eq_none_iff.2 ⟨hcut, hsimilar.forall_members_of hsimilar.skipped.1 ih hms⟩

/-! ## Documents that differ in their layout -/

section Relaid

variable {pairs : List (Except Fault String × Document × Document)} {added : Members}
  {P : Except Fault String × Document → Prop}

/-- What holds of members that are added, and of both members of each pair if of one, holds of all
    members of an object exactly if it does after a change of its layout. -/
theorem forall_members_iff_of_order
    (horder : ms'.Perm (pairs.map (fun p => (p.1, p.2.2)) ++ added)) (hadded : ∀ m ∈ added, P m)
    (hpair : ∀ name d d', (name, d, d') ∈ pairs → (P (name, d) ↔ P (name, d'))) :
    (∀ m ∈ pairs.map (fun p => (p.1, p.2.1)), P m) ↔ ∀ m ∈ ms', P m := by
  have hall : (∀ m ∈ ms', P m) ↔ ∀ p ∈ pairs, P (p.1, p.2.2) := by
    simp only [horder.mem_iff, List.forall_mem_append, List.forall_mem_map]
    exact and_iff_left hadded
  rw [hall, List.forall_mem_map]
  exact forall₂_congr fun p hp => hpair p.1 p.2.1 p.2.2 hp

theorem Relaid.fit_iff (h : Relaid s d d') : d.Fit ↔ d'.Fit := by
  induction h with
  | scalar => exact Iff.rfl
  | array pairs _ ih =>
    simp only [Fit, keepFault, keepItems_eq_none_iff, true_and, List.forall_mem_map]
    refine forall₂_congr fun p hp => ?_
    obtain ⟨i, hi⟩ := List.mem_iff_getElem?.1 hp
    exact ih i p.1 p.2 hi
  | object pairs added hadded horder _ ih =>
    simp only [Fit, keepFault, keepMembers_eq_none_iff, true_and]
    refine forall_members_iff_of_order horder (fun m hm => ?_) fun name d d' hp => ?_
    · obtain ⟨name, hname, -, hfit⟩ := hadded m hm
      exact ⟨⟨name, hname⟩, hfit⟩
    · exact and_congr_right fun _ => ih name d d' hp

theorem Relaid.skipFault_eq_none_iff (h : Relaid s d d') :
    d.skipFault = none ↔ d'.skipFault = none := by
  induction h with
  | scalar => exact Iff.rfl
  | array pairs _ ih =>
    simp only [skipFault, skipItems_eq_none_iff, true_and, List.forall_mem_map]
    refine forall₂_congr fun p hp => ?_
    obtain ⟨i, hi⟩ := List.mem_iff_getElem?.1 hp
    exact ih i p.1 p.2 hi
  | object pairs added hadded horder _ ih =>
    simp only [skipFault, skipMembers_eq_none_iff, true_and]
    refine forall_members_iff_of_order horder (fun m hm => ?_) fun name d d' hp => ih name d d' hp
    obtain ⟨-, -, -, hfit⟩ := hadded m hm
    exact skipFault_of_fit hfit

/-- Members of names that are not read do not count. -/
theorem once_of_order (honce : s.Once (pairs.map fun p => (p.1, p.2.1)))
    (hadded : ∀ m ∈ added, ∃ name, m.1 = .ok name ∧ ¬s.Reads name ∧ m.2.Fit)
    (horder : ms'.Perm (pairs.map (fun p => (p.1, p.2.2)) ++ added)) : s.Once ms' := by
  have hspare : ∀ m ∈ added, ∀ name, s.Reads name → m.1 ≠ .ok name := by
    rintro m hm name hname heq
    obtain ⟨other, hother, hunread, -⟩ := hadded m hm
    rw [hother] at heq
    cases heq
    exact hunread hname
  refine (horder.pairwise_iff (Std.Symm.symm _ _)).2 (List.pairwise_append.2 ⟨?_, ?_, ?_⟩)
  · rw [List.pairwise_map]
    exact List.pairwise_map.1 honce
  · exact List.pairwise_of_forall_mem_list fun a ha b _ name hname heq =>
      absurd heq (hspare a ha name hname)
  · exact fun a _ b hb name hname _ => hspare b hb name hname

theorem exists_pair_of_mem {label : Except Fault String}
    (h : (label, d) ∈ pairs.map fun p => (p.1, p.2.1)) : ∃ d', (label, d, d') ∈ pairs := by
  obtain ⟨⟨other, e, d'⟩, hp, heq⟩ := List.mem_map.1 h
  cases heq
  exact ⟨d', hp⟩

/-- A member of a name that is read comes from a pair. -/
theorem exists_pair_of_order
    (hadded : ∀ m ∈ added, ∃ name, m.1 = .ok name ∧ ¬s.Reads name ∧ m.2.Fit)
    (horder : ms'.Perm (pairs.map (fun p => (p.1, p.2.2)) ++ added)) (hname : s.Reads name)
    (h : (.ok name, d') ∈ ms') : ∃ d, (.ok name, d, d') ∈ pairs := by
  rcases List.mem_append.1 (horder.mem_iff.1 h) with hmem | hmem
  · obtain ⟨⟨other, d, e⟩, hp, heq⟩ := List.mem_map.1 hmem
    cases heq
    exact ⟨d, hp⟩
  · obtain ⟨other, heq, hunread, -⟩ := hadded _ hmem
    cases heq
    exact absurd hname hunread

theorem similar_of_order (honce : s.Once (pairs.map fun p => (p.1, p.2.1)))
    (hadded : ∀ m ∈ added, ∃ name, m.1 = .ok name ∧ ¬s.Reads name ∧ m.2.Fit)
    (horder : ms'.Perm (pairs.map (fun p => (p.1, p.2.2)) ++ added))
    (h : ∀ name d d', (name, d, d') ∈ pairs → Relaid (s.behind name) d d') :
    Similar s (pairs.map fun p => (p.1, p.2.1)) ms' where
  readable := by
    refine forall_members_iff_of_order horder (fun m hm => ?_) fun _ _ _ _ => Iff.rfl
    obtain ⟨name, hname, -⟩ := hadded m hm
    exact ⟨name, hname⟩
  skipped := by
    refine forall_members_iff_of_order horder (fun m hm _ => ?_) fun name d d' hp =>
      imp_congr_right fun _ => (h name d d' hp).skipFault_eq_none_iff
    obtain ⟨-, -, -, hfit⟩ := hadded m hm
    exact skipFault_of_fit hfit
  kept := by
    refine forall_members_iff_of_order horder (fun m hm _ => ?_) fun name d d' hp =>
      imp_congr_right fun _ => (h name d d' hp).fit_iff
    obtain ⟨-, -, -, hfit⟩ := hadded m hm
    exact hfit
  once := honce
  once' := once_of_order honce hadded horder
  given name hname := by
    constructor
    · rintro ⟨d, hd⟩
      obtain ⟨d', hp⟩ := exists_pair_of_mem hd
      exact ⟨d', horder.mem_iff.2 (List.mem_append_left _ (List.mem_map.2 ⟨_, hp, rfl⟩))⟩
    · rintro ⟨d', hd'⟩
      obtain ⟨d, hp⟩ := exists_pair_of_order hadded horder hname hd'
      exact ⟨d, List.mem_map.2 ⟨_, hp, rfl⟩⟩

/-- Documents without repeated names that differ in their layout only are alike. -/
theorem Relaid.alike (h : Relaid s d d') (hdistinct : d.Distinct) : Alike s d d' := by
  induction h with
  | scalar h => exact .scalar h
  | array pairs _ ih =>
    cases hdistinct with
    | array hitems =>
      refine .array (by simp) fun i d d' hd hd' => ?_
      rw [List.getElem?_map, Option.map_eq_some_iff] at hd hd'
      obtain ⟨p, hp, rfl⟩ := hd
      obtain ⟨q, hq, rfl⟩ := hd'
      rw [hp] at hq
      cases hq
      exact ih i p.1 p.2 hp (hitems _ (List.mem_map_of_mem (List.mem_of_getElem? hp)))
  | object pairs added hadded horder hpairs ih =>
    cases hdistinct with
    | object hnames hms =>
      rename_i s ms'
      have honce : s.Once (pairs.map fun p => (p.1, p.2.1)) :=
        hnames.imp fun hab name _ => hab name
      refine .object (similar_of_order honce hadded horder hpairs) ?_
      intro name d d' hname hd hd'
      obtain ⟨e, hp⟩ := exists_pair_of_order hadded horder hname hd'
      have he := List.mem_map_of_mem (f := fun p => (p.1, p.2.1)) hp
      obtain rfl : d = e := honce.eq hname hd he
      exact ih _ d d' hp (hms _ hd)

end Relaid

/-! ## Documents that are kept -/

section Keep

variable {before table table' : List (String × Json)} {cut : Option Fault} {j j' : Json}

theorem ascending_keepObject (hbefore : Keyed.Ascending before)
    (h : keepObject before ms cut = .ok table) : Keyed.Ascending table := by
  induction ms generalizing before with
  | nil =>
    cases cut with
    | some fault => cases h
    | none =>
      cases h
      exact hbefore
  | cons m ms ih =>
    obtain ⟨label, d⟩ := m
    cases label with
    | error fault => cases h
    | ok name =>
      obtain ⟨j, -, h⟩ := Result.bind_eq_ok_iff.1 h
      exact ih (Keyed.ascending_put hbefore) h

/-- What is kept under a name is a member of that name, or what was there before if there is no
    such member. -/
theorem find?_keepObject (name : String) (h : keepObject before ms cut = .ok table) :
    (Keyed.find? name table = Keyed.find? name before ∧ ∀ d, (.ok name, d) ∉ ms) ∨
      ∃ d j, (.ok name, d) ∈ ms ∧ d.keep = .ok j ∧ Keyed.find? name table = some j := by
  induction ms generalizing before with
  | nil =>
    cases cut with
    | some fault => cases h
    | none =>
      cases h
      exact .inl ⟨rfl, fun d => List.not_mem_nil⟩
  | cons m ms ih =>
    obtain ⟨label, e⟩ := m
    cases label with
    | error fault => cases h
    | ok other =>
      obtain ⟨j, hj, h⟩ := Result.bind_eq_ok_iff.1 h
      rcases ih h with ⟨hfind, hmissing⟩ | ⟨d, i, hd, hi, hfind⟩
      · rw [Keyed.find?_put] at hfind
        by_cases hname : other = name
        · subst hname
          rw [if_pos rfl] at hfind
          exact .inr ⟨e, j, List.mem_cons_self, hj, hfind⟩
        · rw [if_neg hname] at hfind
          refine .inl ⟨hfind, fun d hd => ?_⟩
          rcases List.mem_cons.1 hd with heq | hd
          · cases heq
            exact hname rfl
          · exact hmissing d hd
      · exact .inr ⟨d, i, List.mem_cons_of_mem _ hd, hi, hfind⟩

/-- A table has a value under the names of the members that it is kept from, and under no others. -/
theorem mem_of_keepObject (h : keepObject [] ms cut = .ok table) :
    ((∃ j, (name, j) ∈ table) ↔ ∃ d, (.ok name, d) ∈ ms) ∧
      ∀ j, (name, j) ∈ table → ∃ d, (.ok name, d) ∈ ms ∧ d.keep = .ok j := by
  have hascending : Keyed.Ascending table := ascending_keepObject .nil h
  have hmem : ∀ j, (name, j) ∈ table ↔ Keyed.find? name table = some j :=
    fun j => (Keyed.find?_eq_some_iff hascending).symm
  simp only [hmem]
  rcases find?_keepObject name h with ⟨hfind, hmissing⟩ | ⟨d, j, hd, hj, hfind⟩
  · simp [hfind, hmissing, Keyed.find?]
  · rw [hfind]
    refine ⟨⟨fun _ => ⟨d, hd⟩, fun _ => ⟨j, rfl⟩⟩, ?_⟩
    rintro i ⟨⟩
    exact ⟨d, hd, hj⟩

theorem length_of_map_keep {items : List Document} {js : List Json}
    (h : items.map keep = js.map .ok) : items.length = js.length := by
  simpa using congrArg List.length h

theorem exists_of_map_keep {items : List Document} {js : List Json} {i : Nat}
    (h : items.map keep = js.map .ok) (hj : js[i]? = some j) :
    ∃ d, items[i]? = some d ∧ d.keep = .ok j := by
  have hitem := congrArg (·[i]?) h
  simp only [List.getElem?_map, hj] at hitem
  exact Option.map_eq_some_iff.1 hitem

theorem fit_toDocument (j : Json) : j.toDocument.Fit := (fit_iff _).2 j.exists_keep_toDocument

/-- Whether every member has a name and could be kept. -/
def Members.Fit (ms : Members) : Prop := ∀ m ∈ ms, (∃ name, m.1 = .ok name) ∧ m.2.Fit

theorem fit_memberDocuments (table : List (String × Json)) :
    Members.Fit (Json.memberDocuments table) := by
  intro m hm
  rw [Json.memberDocuments_eq_map, List.map_map] at hm
  obtain ⟨⟨name, j⟩, -, rfl⟩ := List.mem_map.1 hm
  exact ⟨⟨name, rfl⟩, fit_toDocument j⟩

theorem exists_mem_memberDocuments :
    (∃ d, (.ok name, d) ∈ Json.memberDocuments table) ↔ ∃ j, (name, j) ∈ table := by
  simp [Json.mem_memberDocuments]

theorem fit_of_keepObject (h : keepObject [] ms cut = .ok table) : Members.Fit ms := by
  obtain ⟨-, hkeeps⟩ := exists_keepObject_iff.1 ⟨table, h⟩
  exact fun m hm => ⟨(hkeeps m hm).1, (fit_iff m.2).2 (hkeeps m hm).2⟩

/-- Members without a fault are similar if they have the same names among those that are read. -/
theorem similar_of_fit (h : Members.Fit ms) (h' : Members.Fit ms') (honce : s.Once ms)
    (honce' : s.Once ms')
    (hgiven : ∀ name, s.Reads name → ((∃ d, (.ok name, d) ∈ ms) ↔ ∃ d, (.ok name, d) ∈ ms')) :
    Similar s ms ms' where
  readable := iff_of_true (fun m hm => (h m hm).1) fun m hm => (h' m hm).1
  skipped := iff_of_true (fun m hm _ => skipFault_of_fit (h m hm).2)
    fun m hm _ => skipFault_of_fit (h' m hm).2
  kept := iff_of_true (fun m hm _ => (h m hm).2) fun m hm _ => (h' m hm).2
  once := honce
  once' := honce'
  given := hgiven

theorem once_memberDocuments (h : Keyed.Ascending table) : s.Once (Json.memberDocuments table) := by
  rw [Json.memberDocuments_eq_map, List.map_map, Shape.Once, List.pairwise_map]
  refine h.imp fun {a b} hlt name _ ha hb => ?_
  have hsame : a.1 = b.1 := Except.ok.inj (ha.trans hb.symm)
  rw [hsame] at hlt
  exact String.lt_irrefl _ hlt

theorem toDocument_of_keep (h : d.IsScalar) (hj : d.keep = .ok j) : j.toDocument = d := by
  cases d with
  | array => cases h
  | object => cases h
  | broken => cases hj
  | null => cases hj; rfl
  | bool => cases hj; rfl
  | number => cases hj; rfl
  | text => cases hj; rfl

/-- Documents that are alike stay so when they are kept. -/
theorem Alike.of_keep (h : Alike s d d') (hj : d.keep = .ok j) (hj' : d'.keep = .ok j') :
    Alike s j.toDocument j'.toDocument := by
  induction h generalizing j j' with
  | scalar h =>
    rw [hj] at hj'
    cases hj'
    rw [toDocument_of_keep h hj]
    exact .scalar h
  | array hlength _ ih =>
    obtain ⟨js, hjs, rfl⟩ := Result.map_eq_ok_iff.1 hj
    obtain ⟨js', hjs', rfl⟩ := Result.map_eq_ok_iff.1 hj'
    obtain ⟨-, hitems⟩ := keepList_eq_ok_iff.1 hjs
    obtain ⟨-, hitems'⟩ := keepList_eq_ok_iff.1 hjs'
    simp only [Json.toDocument, Json.itemDocuments_eq_map]
    refine .array ?_ fun i d d' hd hd' => ?_
    · rw [List.length_map, List.length_map, ← length_of_map_keep hitems,
        ← length_of_map_keep hitems', hlength]
    · rw [List.getElem?_map, Option.map_eq_some_iff] at hd hd'
      obtain ⟨j, hj, rfl⟩ := hd
      obtain ⟨j', hj', rfl⟩ := hd'
      obtain ⟨e, he, hkeep⟩ := exists_of_map_keep hitems hj
      obtain ⟨e', he', hkeep'⟩ := exists_of_map_keep hitems' hj'
      exact ih i e e' he he' hkeep hkeep'
  | object hsimilar _ ih =>
    obtain ⟨table, htable, rfl⟩ := Result.map_eq_ok_iff.1 hj
    obtain ⟨table', htable', rfl⟩ := Result.map_eq_ok_iff.1 hj'
    refine .object (similar_of_fit (fit_memberDocuments _) (fit_memberDocuments _)
      (once_memberDocuments (ascending_keepObject .nil htable))
      (once_memberDocuments (ascending_keepObject .nil htable')) fun name hname => ?_) ?_
    · simp only [exists_mem_memberDocuments, (mem_of_keepObject htable).1,
        (mem_of_keepObject htable').1]
      exact hsimilar.given name hname
    · intro name d d' hname hd hd'
      obtain ⟨j, hj, rfl⟩ := Json.mem_memberDocuments.1 hd
      obtain ⟨j', hj', rfl⟩ := Json.mem_memberDocuments.1 hd'
      obtain ⟨e, he, hkeep⟩ := (mem_of_keepObject htable).2 j hj
      obtain ⟨e', he', hkeep'⟩ := (mem_of_keepObject htable').2 j' hj'
      exact ih name e e' hname he he' hkeep hkeep'

/-- The members of an object without repeated names are similar to those of the table that is kept
    of them. -/
theorem similar_of_keepObject (hnames : s.Once ms) (h : keepObject [] ms cut = .ok table) :
    Similar s ms (Json.memberDocuments table) :=
  similar_of_fit (fit_of_keepObject h) (fit_memberDocuments table) hnames
    (once_memberDocuments (ascending_keepObject .nil h)) fun name _ => by
      rw [exists_mem_memberDocuments, (mem_of_keepObject h).1]

theorem alike_of_keep (hdistinct : d.Distinct) (hj : d.keep = .ok j) : Alike s d j.toDocument := by
  induction d using induct generalizing s j with
  | scalar d h =>
    rw [toDocument_of_keep h hj]
    exact .scalar h
  | array items cut ih =>
    cases hdistinct with
    | array hitems =>
      obtain ⟨js, hjs, rfl⟩ := Result.map_eq_ok_iff.1 hj
      obtain ⟨rfl, hkeep⟩ := keepList_eq_ok_iff.1 hjs
      rw [Json.toDocument, Json.itemDocuments_eq_map]
      refine .array (by rw [List.length_map, length_of_map_keep hkeep]) fun i d d' hd hd' => ?_
      rw [List.getElem?_map, Option.map_eq_some_iff] at hd'
      obtain ⟨j, hj, rfl⟩ := hd'
      obtain ⟨e, he, hkept⟩ := exists_of_map_keep hkeep hj
      rw [hd] at he
      cases he
      have hmem : d ∈ items := List.mem_of_getElem? hd
      exact ih d hmem (hitems d hmem) hkept
  | object ms cut ih =>
    cases hdistinct with
    | object hnames hms =>
      obtain ⟨table, htable, rfl⟩ := Result.map_eq_ok_iff.1 hj
      obtain ⟨rfl, -⟩ := exists_keepObject_iff.1 ⟨table, htable⟩
      have honce : s.Once ms := hnames.imp fun hab name _ => hab name
      refine .object (similar_of_keepObject honce htable) fun name d d' hname hd hd' => ?_
      obtain ⟨j, hj, rfl⟩ := Json.mem_memberDocuments.1 hd'
      obtain ⟨e, he, hkept⟩ := (mem_of_keepObject htable).2 j hj
      obtain rfl : d = e := honce.eq hname hd he
      exact ih _ hd (hms _ hd) hkept

/-- A document that is alike to one that can be kept can be kept too. -/
theorem Alike.exists_keep (h : Alike s d d') (hj : d.keep = .ok j) :
    ∃ j', d'.keep = .ok j' ∧ Alike s j.toDocument j'.toDocument := by
  obtain ⟨j', hj'⟩ := (fit_iff d').1 (h.fit ((fit_iff d).2 ⟨j, hj⟩))
  exact ⟨j', hj', h.of_keep hj hj'⟩

end Keep

end Document

end AssetOracle
