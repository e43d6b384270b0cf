import AssetOracle.Proofs.Document.Layout
import AssetOracle.Toml.Reader

/-!
# Names in configuration files

No name is given twice in a table of a configuration file. A table under construction keeps to this
at every step (`Table.distinct_change`): a name is added only if it is not there, and everything
else is changed in its place. So in the document of a file no object has two members of one name
(`distinct_of_read?`).
-/

namespace AssetOracle.Toml

variable {t t' : Table} {name : String} {e : Entry} {entries : List (String × Entry)}
  {d : Document} {cs rest : List Char} {path : List String} {fuel depth : Nat}

/-! ## Tables -/

namespace Table

/-- Whether no name is given twice in a table or below it. -/
def Distinct (t : Table) : Prop := t.toDocument.Distinct

theorem tableDocuments_eq_map (ts : List Table) : tableDocuments ts = ts.map toDocument := by
  induction ts with
  | nil => rfl
  | cons t ts ih => rw [tableDocuments, ih, List.map_cons]

theorem entryDocuments_eq_map (entries : List (String × Entry)) :
    entryDocuments entries = entries.map fun e => (.ok e.1, entryDocument e.2) := by
  induction entries with
  | nil => rfl
  | cons e entries ih =>
    obtain ⟨name, e⟩ := e
    rw [entryDocuments, ih, List.map_cons]

theorem distinct_tables_iff {ts : List Table} :
    (entryDocument (.tables ts)).Distinct ↔ ∀ t ∈ ts, t.Distinct := by
  rw [entryDocument, tableDocuments_eq_map]
  constructor
  · rintro (_ | _ | _ | _ | _ | h) t ht
    exact h _ (List.mem_map_of_mem ht)
  · exact fun h => .array (List.forall_mem_map.2 h)

theorem distinct_iff : t.Distinct ↔
    (t.entries.map (·.1)).Nodup ∧ ∀ e ∈ t.entries, (entryDocument e.2).Distinct := by
  obtain ⟨implicit, dotted, entries⟩ := t
  have hnames : (entries.map (·.1)).Nodup ↔ (entryDocuments entries).Pairwise
      fun a b => ∀ name, a.1 = .ok name → b.1 ≠ .ok name := by
    rw [entryDocuments_eq_map, List.Nodup, List.pairwise_map, List.pairwise_map]
    refine List.Pairwise.iff fun a b => ⟨?_, fun h heq => h a.1 rfl (congrArg _ heq.symm)⟩
    rintro hne name ⟨⟩ heq
    exact hne (Except.ok.inj heq).symm
  have hvalues : (∀ m ∈ entryDocuments entries, m.2.Distinct) ↔
      ∀ e ∈ entries, (entryDocument e.2).Distinct := by
    rw [entryDocuments_eq_map, List.forall_mem_map]
  rw [Distinct, toDocument, Table.entries, hnames, ← hvalues]
  constructor
  · rintro (_ | _ | _ | _ | _ | _ | ⟨hpairwise, h⟩)
    exact ⟨hpairwise, h⟩
  · exact fun ⟨hpairwise, h⟩ => .object hpairwise h

theorem distinct_withEntries_iff : (t.withEntries entries).Distinct ↔
    (entries.map (·.1)).Nodup ∧ ∀ e ∈ entries, (entryDocument e.2).Distinct := distinct_iff

theorem distinct_empty : empty.Distinct := distinct_iff.2 ⟨List.nodup_nil, nofun⟩

theorem Distinct.headed (h : t.Distinct) : t.headed.Distinct := by
  have hentries := distinct_iff.1 h
  exact distinct_iff.2 hentries

theorem Distinct.remove (h : t.Distinct) : (t.withEntries (remove name t.entries)).Distinct := by
  obtain ⟨hnames, hentries⟩ := distinct_iff.1 h
  have hsub : (Table.remove name t.entries).Sublist t.entries := List.filter_sublist
  exact distinct_withEntries_iff.2
    ⟨(hsub.map _).nodup hnames, fun e he => hentries e (hsub.subset he)⟩

theorem mem_of_lookup (h : entries.lookup name = some e) : (name, e) ∈ entries := by
  obtain ⟨before, after, rfl, -⟩ := List.lookup_eq_some_iff.1 h
  exact List.mem_append_right _ List.mem_cons_self

theorem Distinct.of_lookup (h : t.Distinct) (he : t.entries.lookup name = some e) :
    (entryDocument e).Distinct :=
  (distinct_iff.1 h).2 (name, e) (mem_of_lookup he)

/-- A name is added if it is not there. -/
theorem Distinct.append (h : t.Distinct) (hname : t.entries.lookup name = none)
    (he : (entryDocument e).Distinct) :
    (t.withEntries (t.entries ++ [(name, e)])).Distinct := by
  obtain ⟨hnames, hentries⟩ := distinct_iff.1 h
  have hnew : name ∉ t.entries.map (·.1) := by
    intro hmem
    obtain ⟨e, he, rfl⟩ := List.mem_map.1 hmem
    simpa using List.lookup_eq_none_iff.1 hname e he
  refine distinct_withEntries_iff.2 ⟨?_, List.forall_mem_append.2 ⟨hentries, ?_⟩⟩
  · rw [List.map_append, List.nodup_append]
    refine ⟨hnames, List.pairwise_singleton _ _, ?_⟩
    rintro other hother _ hmem rfl
    rw [List.mem_singleton.1 hmem] at hother
    exact hnew hother
  · simpa using he

theorem map_fst_replace (hname : name ∈ entries.map (·.1)) :
    (replace name e entries).map (·.1) = entries.map (·.1) := by
  induction entries with
  | nil => cases hname
  | cons first entries ih =>
    obtain ⟨other, first⟩ := first
    rw [replace]
    by_cases heq : other = name
    · rw [if_pos heq]
      rfl
    · have hmem : name ∈ entries.map (·.1) := (List.mem_cons.1 hname).resolve_left (Ne.symm heq)
      rw [if_neg heq, List.map_cons, ih hmem, List.map_cons]

theorem mem_replace {x : String × Entry} (h : x ∈ replace name e entries) :
    x = (name, e) ∨ x ∈ entries := by
  induction entries with
  | nil => exact .inl (List.mem_singleton.1 h)
  | cons first entries ih =>
    obtain ⟨other, first⟩ := first
    rw [replace] at h
    by_cases heq : other = name
    · rw [if_pos heq, heq] at h
      exact (List.mem_cons.1 h).imp_right (List.mem_cons_of_mem _)
    · rw [if_neg heq] at h
      rcases List.mem_cons.1 h with rfl | h
      · exact .inr List.mem_cons_self
      · exact (ih h).imp_right (List.mem_cons_of_mem _)

/-- What is under a name is changed in its place. -/
theorem Distinct.replace {old : Entry} (h : t.Distinct) (hname : t.entries.lookup name = some old)
    (he : (entryDocument e).Distinct) :
    (t.withEntries (Table.replace name e t.entries)).Distinct := by
  obtain ⟨hnames, hentries⟩ := distinct_iff.1 h
  have hmem : name ∈ t.entries.map (·.1) :=
    List.mem_map_of_mem (f := (·.1)) (mem_of_lookup hname)
  refine distinct_withEntries_iff.2 ⟨?_, fun x hx => ?_⟩
  · rw [map_fst_replace hmem]
    exact hnames
  · rcases mem_replace hx with rfl | hx
    · exact he
    · exact hentries x hx

theorem forall_mem_of_changeLast {α : Type} {f : α → Option α} {P : α → Prop} {xs ys : List α}
    (hf : ∀ x y, P x → f x = some y → P y) (hxs : ∀ x ∈ xs, P x)
    (h : changeLast f xs = some ys) : ∀ y ∈ ys, P y := by
  induction xs generalizing ys with
  | nil => cases h
  | cons x xs ih =>
    obtain ⟨hx, hrest⟩ := List.forall_mem_cons.1 hxs
    cases xs with
    | nil =>
      obtain ⟨y, hy, rfl⟩ := Option.map_eq_some_iff.1 h
      exact List.forall_mem_singleton.2 (hf x y hx hy)
    | cons x' xs =>
      obtain ⟨ys, hys, rfl⟩ := Option.map_eq_some_iff.1 h
      exact List.forall_mem_cons.2 ⟨hx, ih hrest hys⟩

/-- A change at the end of a path gives no name twice if it does not at that place. -/
theorem distinct_change {dotted : Bool} {f : Table → Option Table}
    (hf : ∀ t t', t.Distinct → f t = some t' → t'.Distinct) (ht : t.Distinct)
    (h : t.change dotted f path = some t') : t'.Distinct := by
  induction path generalizing t t' with
  | nil => exact hf t t' ht h
  | cons name path ih =>
    rw [change] at h
    split at h
    · rename_i hname
      obtain ⟨child, hchild, h⟩ := Option.bind_eq_some_iff.1 h
      obtain rfl := Option.some.inj h
      have hnew : (Table.mk true dotted []).Distinct := distinct_iff.2 ⟨List.nodup_nil, nofun⟩
      exact ht.append hname (ih hnew hchild)
    · cases h
    · rename_i contents hname
      obtain ⟨changed, hchanged, h⟩ := Option.bind_eq_some_iff.1 h
      obtain rfl := Option.some.inj h
      exact ht.replace hname <| distinct_tables_iff.2 <|
        forall_mem_of_changeLast (fun _ _ => ih) (distinct_tables_iff.1 (ht.of_lookup hname))
          hchanged
    · rename_i child hname
      split at h
      · cases h
      · obtain ⟨changed, hchanged, h⟩ := Option.bind_eq_some_iff.1 h
        obtain rfl := Option.some.inj h
        exact ht.replace hname (ih (ht.of_lookup hname) hchanged)

theorem Distinct.insert {value : Document} (ht : t.Distinct) (hvalue : value.Distinct)
    (h : t.insert path name value = some t') : t'.Distinct := by
  refine distinct_change (fun inner inner' hinner h => ?_) ht h
  split at h
  · cases h
  · split at h
    · cases h
    · rename_i hname
      obtain rfl := Option.some.inj h
      exact hinner.append (Option.not_isSome_iff_eq_none.1 hname) hvalue

theorem Distinct.appendTable (ht : t.Distinct) {content : Table} (hcontent : content.Distinct)
    (h : t.appendTable path name content = some t') : t'.Distinct := by
  refine distinct_change (fun parent parent' hparent h => ?_) ht h
  split at h
  · rename_i hname
    obtain rfl := Option.some.inj h
    exact hparent.append hname (distinct_tables_iff.2 (List.forall_mem_singleton.2 hcontent))
  · rename_i contents hname
    obtain rfl := Option.some.inj h
    have hcontents := distinct_tables_iff.1 (hparent.of_lookup hname)
    refine hparent.replace hname (distinct_tables_iff.2 ?_)
    exact List.forall_mem_append.2 ⟨hcontents, List.forall_mem_singleton.2 hcontent⟩
  · cases h

theorem Distinct.addTable (ht : t.Distinct) {content : Table} (hcontent : content.Distinct)
    (h : t.addTable path name content = some t') : t'.Distinct := by
  refine distinct_change (fun parent parent' hparent h => ?_) ht h
  split at h
  · rename_i hname
    obtain rfl := Option.some.inj h
    exact hparent.append hname hcontent
  · cases h

end Table

/-! ## Values -/

theorem distinct_record_nil : (Document.record []).Distinct := .object .nil nofun

theorem distinct_scalar (s : Scalar) : s.document.Distinct := by
  cases s with
  | integer n => exact .number _
  | float x => exact .number _
  | moment text =>
    refine .object (List.pairwise_singleton _ _) ?_
    simpa using .text text

/-- Whether nothing that is read with some fuel gives a name twice. -/
structure ReadsDistinct (fuel : Nat) : Prop where
  value : ∀ {depth cs d rest}, value fuel depth cs = some (d, rest) → d.Distinct
  items : ∀ {depth before cs d rest}, (∀ item ∈ before, item.Distinct) →
    arrayItems fuel depth before cs = some (d, rest) → d.Distinct
  pairs : ∀ {depth} {before : Table} {cs d rest}, before.Distinct →
    pairs fuel depth before cs = some (d, rest) → d.Distinct

namespace ReadsDistinct

theorem value_succ (h : ReadsDistinct fuel) (hvalue : Toml.value (fuel + 1) depth cs =
    some (d, rest)) : d.Distinct := by
  unfold Toml.value at hvalue
  split at hvalue
  · cases hvalue
  · split at hvalue
    · cases hvalue
    · exact h.items (List.forall_mem_nil _) hvalue
  · split at hvalue
    · cases hvalue
    · split at hvalue
      · cases hvalue
        exact distinct_record_nil
      · exact h.pairs Table.distinct_empty hvalue
  · cases hvalue
    exact .bool true
  · cases hvalue
    exact .bool false
  · split at hvalue
    · obtain ⟨⟨s, more⟩, -, heq⟩ := Option.map_eq_some_iff.1 hvalue
      cases heq
      exact .text _
    · obtain ⟨⟨s, more⟩, -, heq⟩ := Option.map_eq_some_iff.1 hvalue
      cases heq
      exact distinct_scalar s

theorem items_succ (h : ReadsDistinct fuel) {before : List Document}
    (hbefore : ∀ item ∈ before, item.Distinct)
    (hitems : arrayItems (fuel + 1) depth before cs = some (d, rest)) : d.Distinct := by
  have hlist : ∀ {items : List Document}, (∀ item ∈ items, item.Distinct) →
      (Document.list items.reverse).Distinct := by
    intro items hitems
    exact .array fun item hitem => hitems item (List.mem_reverse.1 hitem)
  rw [arrayItems] at hitems
  obtain ⟨more, -, hitems⟩ := Option.bind_eq_some_iff.1 hitems
  split at hitems
  · cases hitems
    exact hlist hbefore
  · obtain ⟨⟨item, more⟩, hitem, hitems⟩ := Option.bind_eq_some_iff.1 hitems
    have hall : ∀ x ∈ item :: before, x.Distinct :=
      List.forall_mem_cons.2 ⟨h.value hitem, hbefore⟩
    obtain ⟨more, -, hitems⟩ := Option.bind_eq_some_iff.1 hitems
    split at hitems
    · exact h.items hall hitems
    · cases hitems
      exact hlist hall
    · cases hitems

theorem pairs_succ (h : ReadsDistinct fuel) {before : Table} (hbefore : before.Distinct)
    (hpairs : Toml.pairs (fuel + 1) depth before cs = some (d, rest)) : d.Distinct := by
  rw [Toml.pairs] at hpairs
  obtain ⟨⟨⟨path, last⟩, more⟩, -, hpairs⟩ := Option.bind_eq_some_iff.1 hpairs
  obtain ⟨⟨_, more⟩, -, hpairs⟩ := Option.bind_eq_some_iff.1 hpairs
  obtain ⟨⟨item, more⟩, hitem, hpairs⟩ := Option.bind_eq_some_iff.1 hpairs
  obtain ⟨table, htable, hpairs⟩ := Option.bind_eq_some_iff.1 hpairs
  have hinserted : table.Distinct := hbefore.insert (h.value hitem) htable
  split at hpairs
  · exact h.pairs hinserted hpairs
  · cases hpairs
    exact hinserted
  · cases hpairs

end ReadsDistinct

theorem readsDistinct (fuel : Nat) : ReadsDistinct fuel := by
  induction fuel with
  | zero => exact ⟨nofun, nofun, nofun⟩
  | succ fuel ih => exact ⟨ih.value_succ, ih.items_succ, ih.pairs_succ⟩

/-! ## Statements -/

/-- Whether no name is given twice in what has been read. -/
structure Progress.Distinct (p : Progress) : Prop where
  root : p.root.Distinct
  current : p.current.Distinct

namespace Progress

variable {p p' : Progress}

theorem distinct_close (hp : p.Distinct) (h : p.close = some t) : t.Distinct := by
  unfold close at h
  split at h
  · cases h
    exact hp.current
  · split at h
    · exact hp.root.appendTable hp.current h
    · exact hp.root.addTable hp.current h

theorem distinct_locate {path : List String} (ht : t.Distinct)
    (h : openTable.locate path t = some t') : t'.Distinct := by
  induction path generalizing t with
  | nil =>
    cases h
    exact ht
  | cons name path ih =>
    rw [openTable.locate] at h
    split at h
    · rename_i child hname
      exact ih (ht.of_lookup hname) h
    · rename_i contents hname
      obtain ⟨last, hlast, h⟩ := Option.bind_eq_some_iff.1 h
      have hcontents := Table.distinct_tables_iff.1 (ht.of_lookup hname)
      exact ih (hcontents last (List.mem_of_getLast? hlast)) h
    · cases h

theorem distinct_openTable (hp : p.Distinct) (h : p.openTable path name = some p') :
    p'.Distinct := by
  unfold openTable at h
  obtain ⟨root, hroot, h⟩ := Option.bind_eq_some_iff.1 h
  obtain ⟨found, hfound, h⟩ := Option.bind_eq_some_iff.1 h
  obtain ⟨parent, hparent, h⟩ := Option.bind_eq_some_iff.1 h
  have hopen : found.Distinct :=
    Table.distinct_change (fun _ _ ht h => Option.some.inj h ▸ ht) (distinct_close hp hroot) hfound
  split at h
  · cases h
    exact ⟨hopen, Table.distinct_empty⟩
  · rename_i t hname
    split at h
    · obtain ⟨rest, hrest, h⟩ := Option.bind_eq_some_iff.1 h
      cases h
      refine ⟨Table.distinct_change (fun parent _ ht h => ?_) hopen hrest, ?_⟩
      · exact Option.some.inj h ▸ ht.remove
      · have ht : t.Distinct := (distinct_locate hopen hparent).of_lookup hname
        exact ht.headed
    · cases h
  · cases h

theorem distinct_openRepeated (hp : p.Distinct) (h : p.openRepeated path name = some p') :
    p'.Distinct := by
  unfold openRepeated at h
  obtain ⟨root, hroot, h⟩ := Option.bind_eq_some_iff.1 h
  obtain ⟨-, -, h⟩ := Option.bind_eq_some_iff.1 h
  cases h
  exact ⟨distinct_close hp hroot, Table.distinct_empty⟩

theorem distinct_insert {value : Document} (hp : p.Distinct) (hvalue : value.Distinct)
    (h : p.insert path name value = some p') : p'.Distinct := by
  obtain ⟨current, hcurrent, h⟩ := Option.bind_eq_some_iff.1 h
  cases h
  exact ⟨hp.root, hp.current.insert hvalue hcurrent⟩

end Progress

variable {p p' : Progress}

theorem distinct_statement (hp : p.Distinct) (h : statement p cs = some (p', rest)) :
    p'.Distinct := by
  unfold statement at h
  split at h
  · obtain ⟨more, -, h⟩ := Option.bind_eq_some_iff.1 h
    cases h
    exact hp
  · cases h
    exact hp
  · obtain ⟨⟨_, more⟩, -, h⟩ := Option.bind_eq_some_iff.1 h
    cases h
    exact hp
  · obtain ⟨⟨⟨path, name⟩, more⟩, -, h⟩ := Option.bind_eq_some_iff.1 h
    obtain ⟨⟨_, more⟩, -, h⟩ := Option.bind_eq_some_iff.1 h
    obtain ⟨⟨_, more⟩, -, h⟩ := Option.bind_eq_some_iff.1 h
    obtain ⟨opened, hopened, h⟩ := Option.bind_eq_some_iff.1 h
    obtain ⟨more, -, h⟩ := Option.bind_eq_some_iff.1 h
    cases h
    exact Progress.distinct_openRepeated hp hopened
  · obtain ⟨⟨⟨path, name⟩, more⟩, -, h⟩ := Option.bind_eq_some_iff.1 h
    obtain ⟨⟨_, more⟩, -, h⟩ := Option.bind_eq_some_iff.1 h
    obtain ⟨opened, hopened, h⟩ := Option.bind_eq_some_iff.1 h
    obtain ⟨more, -, h⟩ := Option.bind_eq_some_iff.1 h
    cases h
    exact Progress.distinct_openTable hp hopened
  · obtain ⟨⟨⟨path, name⟩, more⟩, -, h⟩ := Option.bind_eq_some_iff.1 h
    obtain ⟨⟨_, more⟩, -, h⟩ := Option.bind_eq_some_iff.1 h
    obtain ⟨⟨item, more⟩, hitem, h⟩ := Option.bind_eq_some_iff.1 h
    obtain ⟨inserted, hinserted, h⟩ := Option.bind_eq_some_iff.1 h
    obtain ⟨more, -, h⟩ := Option.bind_eq_some_iff.1 h
    cases h
    exact Progress.distinct_insert hp ((readsDistinct _).value hitem) hinserted

theorem distinct_statements (hp : p.Distinct) (h : statements p fuel cs = some p') :
    p'.Distinct := by
  induction fuel generalizing p cs with
  | zero => cases h
  | succ fuel ih =>
    rw [statements] at h
    split at h
    · cases h
      exact hp
    · obtain ⟨⟨next, more⟩, hnext, h⟩ := Option.bind_eq_some_iff.1 h
      exact ih (distinct_statement hp hnext) h

/-- In the document of a configuration file no object has two members of one name. -/
theorem distinct_of_read? {text : String} (h : read? text = some d) : d.Distinct := by
  unfold read? at h
  obtain ⟨p, hp, h⟩ := Option.bind_eq_some_iff.1 h
  obtain ⟨root, hroot, h⟩ := Option.bind_eq_some_iff.1 h
  cases h
  exact Progress.distinct_close
    (distinct_statements ⟨Table.distinct_empty, Table.distinct_empty⟩ hp) hroot

end AssetOracle.Toml
