import Mathlib
import AssetOracle.Config.Load
import AssetOracle.Proofs.Config.Layout
import AssetOracle.Proofs.Config.Wire
import AssetOracle.Proofs.Document.Record
import AssetOracle.Proofs.Toml.Distinct

/-!
# Settings that are left out

A setting that is left out has its default: a whole section if the section is left out, and a single
setting of a section if only this one is (`Config.omitting`). Whatever is left out, the document of
a configuration without it is decoded as the configuration with these defaults; only a node cannot
be without its asset id or its kind (`Config.decode_omitting`). So is a configuration file, in
whatever order its tables and their values come.
-/

namespace AssetOracle

open Decoder (inverts_text inverts_bool inverts_word)

/-- What is left out of a document: the paths of the members that are not there. -/
abbrev Omission := List Step → Bool

/-- What is left out behind a step. -/
def Omission.under (S : Omission) (step : Step) : Omission := fun path => S (step :: path)

/-- Whether a member is left out. -/
def Omission.drops (S : Omission) (name : String) : Bool := S [.member name]

namespace Json

mutual

/-- A value without the members that are left out. -/
def without (S : Omission) : Json → Json
  | .null => .null
  | .bool b => .bool b
  | .number n => .number n
  | .text s => .text s
  | .array items => .array (itemsWithout S 0 items)
  | .object members => .object (membersWithout S members)

/-- Items from position `i` on without what is left out of them. -/
def itemsWithout (S : Omission) (i : Nat) : List Json → List Json
  | [] => []
  | item :: items => item.without (S.under (.item i)) :: itemsWithout S (i + 1) items

/-- Members without those that are left out. -/
def membersWithout (S : Omission) : List (String × Json) → List (String × Json)
  | [] => []
  | (name, item) :: members =>
    if S.drops name then membersWithout S members
    else (name, item.without (S.under (.member name))) :: membersWithout S members

end

end Json

/-! ## Defaults for what is left out -/

/-- A setting, or its default if it is left out. -/
def Omission.pick {α : Type} (S : Omission) (name : String) (value default : α) : α :=
  if S.drops name then default else value

/-- The section on listening with defaults for what is left out of it. -/
def Listener.omitting (S : Omission) (l : Listener) : Listener where
  address := S.pick "bind_address" l.address ({} : Listener).address

/-- The section on waiting with defaults for what is left out of it. -/
def Timeouts.omitting (S : Omission) (t : Timeouts) : Timeouts where
  request := S.pick "request_secs" t.request ({} : Timeouts).request
  rpc := S.pick "rpc_secs" t.rpc ({} : Timeouts).rpc
  importing := S.pick "import_secs" t.importing ({} : Timeouts).importing

/-- The section on reporting with defaults for what is left out of it. -/
def Observability.omitting (S : Omission) (o : Observability) : Observability where
  logLevel := S.pick "log_level" o.logLevel ({} : Observability).logLevel
  jsonLogs := S.pick "json_logs" o.jsonLogs ({} : Observability).jsonLogs
  metricsEnabled := S.pick "metrics_enabled" o.metricsEnabled ({} : Observability).metricsEnabled
  metricsAddress := S.pick "metrics_address" o.metricsAddress ({} : Observability).metricsAddress

/-- A node without the optional settings that are left out. -/
def NodeConfig.omitting (S : Omission) (n : NodeConfig) : NodeConfig where
  asset := n.asset
  kind := n.kind
  url := S.pick "url" n.url none
  urlVariable := S.pick "url_env" n.urlVariable none
  user := S.pick "rpc_user" n.user none
  password := S.pick "rpc_pass" n.password none
  chain := S.pick "chain" n.chain none
  contract := S.pick "contract" n.contract none

/-- Nodes from position `i` on without what is left out of them. -/
def NodeConfig.omittingFrom (S : Omission) (i : Nat) : List NodeConfig → List NodeConfig
  | [] => []
  | n :: nodes => n.omitting (S.under (.item i)) :: omittingFrom S (i + 1) nodes

/-- A configuration with defaults for what is left out of it: those of a whole section where the
    section is left out, and of single settings elsewhere. -/
def Config.omitting (S : Omission) (c : Config) : Config where
  listener := S.pick "listener" (c.listener.omitting (S.under (.member "listener"))) {}
  timeouts := S.pick "timeouts" (c.timeouts.omitting (S.under (.member "timeouts"))) {}
  observability :=
    S.pick "observability" (c.observability.omitting (S.under (.member "observability"))) {}
  nodes := S.pick "nodes" (NodeConfig.omittingFrom (S.under (.member "nodes")) 0 c.nodes) []

/-- Whether a node keeps its asset id and its kind. -/
def Omission.Identifies (S : Omission) : Prop := S.drops "asset_id" = false ∧ S.drops "kind" = false

/-- Whether every node that is not left out keeps its asset id and its kind. -/
def Config.Identifies (S : Omission) (c : Config) : Prop :=
  S.drops "nodes" = true ∨
    ∀ i < c.nodes.length, ((S.under (.member "nodes")).under (.item i)).Identifies

variable {S : Omission} {name : String} {members : List (String × Json)} {fields : List Field}
  {dialect : Dialect} {α : Type}

/-! ## Members that are left -/

namespace Json

theorem find?_membersWithout : Keyed.find? name (membersWithout S members) =
    if S.drops name then none
    else (Keyed.find? name members).map fun item => item.without (S.under (.member name)) := by
  induction members with
  | nil => simp [membersWithout, Keyed.find?]
  | cons member members ih =>
    obtain ⟨key, item⟩ := member
    rw [membersWithout]
    by_cases hkey : key = name
    · subst hkey
      by_cases hdrops : S.drops key = true
      · simp [hdrops, ih]
      · simp [hdrops, Keyed.find?]
    · by_cases hdrops : S.drops key = true
      · simp [hdrops, ih, Keyed.find?, hkey]
      · simp [hdrops, ih, Keyed.find?, hkey]

theorem mem_membersWithout {j : Json} : (name, j) ∈ membersWithout S members ↔
    S.drops name = false ∧
      ∃ item, (name, item) ∈ members ∧ item.without (S.under (.member name)) = j := by
  induction members with
  | nil => simp [membersWithout]
  | cons member members ih =>
    obtain ⟨key, item⟩ := member
    rw [membersWithout]
    by_cases hdrops : S.drops key = true
    · simp only [hdrops, if_true, ih, List.mem_cons, Prod.mk.injEq]
      constructor
      · rintro ⟨hname, other, hother, rfl⟩
        exact ⟨hname, other, .inr hother, rfl⟩
      · rintro ⟨hname, other, ⟨rfl, rfl⟩ | hother, rfl⟩
        · rw [hdrops] at hname
          cases hname
        · exact ⟨hname, other, hother, rfl⟩
    · simp only [hdrops, Bool.false_eq_true, if_false, ih, List.mem_cons, Prod.mk.injEq]
      constructor
      · rintro (⟨rfl, rfl⟩ | ⟨hname, other, hother, rfl⟩)
        · exact ⟨Bool.eq_false_iff.2 hdrops, item, .inl ⟨rfl, rfl⟩, rfl⟩
        · exact ⟨hname, other, .inr hother, rfl⟩
      · rintro ⟨hname, other, ⟨rfl, rfl⟩ | hother, rfl⟩
        · exact .inl ⟨rfl, rfl⟩
        · exact .inr ⟨hname, other, hother, rfl⟩

theorem sublist_membersWithout :
    ((membersWithout S members).map (·.1)).Sublist (members.map (·.1)) := by
  induction members with
  | nil => exact List.Sublist.slnil
  | cons member members ih =>
    obtain ⟨key, item⟩ := member
    rw [membersWithout]
    by_cases hdrops : S.drops key = true
    · rw [if_pos hdrops]
      exact ih.cons _
    · rw [if_neg hdrops]
      exact ih.cons_cons _

theorem exists_of_mem_itemsWithout {items : List Json} {i : Nat} {j : Json}
    (h : j ∈ itemsWithout S i items) : ∃ item ∈ items, ∃ T, item.without T = j := by
  induction items generalizing i with
  | nil => cases h
  | cons item items ih =>
    rcases List.mem_cons.1 h with rfl | h
    · exact ⟨item, List.mem_cons_self, _, rfl⟩
    · obtain ⟨item, hitem, hj⟩ := ih h
      exact ⟨item, List.mem_cons_of_mem _ hitem, hj⟩

theorem Portable.without {depth : Nat} {j : Json} (h : Portable depth j) :
    Portable depth (j.without S) := by
  induction h generalizing S with
  | null => exact .null
  | bool b => exact .bool b
  | nat hn => exact .nat hn
  | text s => exact .text s
  | array _ ih =>
    refine .array fun item hitem => ?_
    obtain ⟨item, hmem, T, rfl⟩ := exists_of_mem_itemsWithout hitem
    exact ih item hmem
  | object hkeys _ ih =>
    refine .object ?_ fun member hmember => ?_
    · exact List.pairwise_map.1 (.sublist sublist_membersWithout (List.pairwise_map.2 hkeys))
    · obtain ⟨name, j⟩ := member
      obtain ⟨-, item, hitem, rfl⟩ := mem_membersWithout.1 hmember
      exact ih (name, item) hitem

end Json

/-! ## Decoding what is left -/

/-- A structure is decoded from an object from which members are left out if the fields whose
    members are left have their values and the others their defaults. -/
theorem Decoder.decode_ofMembers_without {type : String} {build : Row fields → α} {x : α}
    (hfields : (fields.map (·.name)).Nodup) (hmembers : (members.map (·.1)).Nodup)
    (h : ∃ row, build row = x ∧ Row.Reads dialect (fun name => if S.drops name then none else
      (Keyed.find? name members).map fun item => (item.without (S.under (.member name))).toDocument)
      fields row) :
    (Decoder.record type fields).map build dialect
      ((Json.ofMembers members).without S).toDocument = .ok x := by
  rw [Json.ofMembers, Json.without]
  refine Decoder.decode_object hfields ?_ ?_
  · exact Json.sublist_membersWithout.nodup (Keyed.nodup_keys (Keyed.ascending_ofList members))
  · simp only [Json.find?_membersWithout, Keyed.find?_ofList hmembers, apply_ite (Option.map _),
      Option.map_none, Option.map_map]
    exact h

theorem Field.reads_withDefault {decode : Decoder α} {value default : α} {d : Document}
    (h : decode dialect d = .ok value) :
    (Field.withDefault name decode default).Reads dialect
      (if S.drops name then none else some d) (S.pick name value default) := by
  by_cases hdrops : S.drops name = true
  · have hpick : S.pick name value default = default := if_pos hdrops
    rw [if_pos hdrops]
    exact congrArg some hpick.symm
  · have hpick : S.pick name value default = value := if_neg hdrops
    rw [if_neg hdrops]
    exact h.trans (congrArg Except.ok hpick.symm)

theorem Listener.decode_without (l : Listener) :
    decode dialect (l.encode.without S).toDocument = .ok (l.omitting S) := by
  refine Decoder.decode_ofMembers_without (by decide) (by simp)
    ⟨((l.omitting S).address, ()), rfl, ?_, trivial⟩
  exact Field.reads_withDefault (inverts_text dialect l.address)

theorem Timeouts.decode_without (t : Timeouts) :
    decode dialect (t.encode.without S).toDocument = .ok (t.omitting S) := by
  have hword : ∀ n : UInt64, Decoder.word dialect (Json.nat n.toNat).toDocument = .ok n :=
    inverts_word dialect
  refine Decoder.decode_ofMembers_without (by decide) (by simp)
    ⟨((t.omitting S).request, (t.omitting S).rpc, (t.omitting S).importing, ()), rfl,
      ?_, ?_, ?_, trivial⟩
  · exact Field.reads_withDefault (hword t.request)
  · exact Field.reads_withDefault (hword t.rpc)
  · exact Field.reads_withDefault (hword t.importing)

theorem Observability.decode_without (o : Observability) :
    decode dialect (o.encode.without S).toDocument = .ok (o.omitting S) := by
  refine Decoder.decode_ofMembers_without (by decide) (by simp)
    ⟨((o.omitting S).logLevel, (o.omitting S).jsonLogs, (o.omitting S).metricsEnabled,
      (o.omitting S).metricsAddress, ()), rfl, ?_, ?_, ?_, ?_, trivial⟩
  · exact Field.reads_withDefault (inverts_text dialect o.logLevel)
  · exact Field.reads_withDefault (inverts_bool dialect o.jsonLogs)
  · exact Field.reads_withDefault (inverts_bool dialect o.metricsEnabled)
  · exact Field.reads_withDefault (inverts_text dialect o.metricsAddress)

namespace NodeConfig

theorem decode_encodeOptional_without (setting : Option String) :
    Decoder.optional Decoder.text dialect ((encodeOptional setting).without S).toDocument =
      .ok setting := by
  have hwithout : (encodeOptional setting).without S = encodeOptional setting := by
    cases setting <;> rfl
  rw [hwithout]
  exact inverts_optional dialect setting

theorem decode_without (n : NodeConfig) (h : S.Identifies) :
    decode dialect (n.encode.without S).toDocument = .ok (n.omitting S) := by
  refine Decoder.decode_ofMembers_without (by decide) (by simp)
    ⟨((n.omitting S).asset, (n.omitting S).kind, (n.omitting S).url, (n.omitting S).urlVariable,
      (n.omitting S).user, (n.omitting S).password, (n.omitting S).chain, (n.omitting S).contract,
      ()), rfl, ?_, ?_, ?_, ?_, ?_, ?_, ?_, ?_, trivial⟩
  · show Field.Reads _ dialect (if S.drops "asset_id" then none else _) _
    rw [h.1]
    exact inverts_text dialect n.asset
  · show Field.Reads _ dialect (if S.drops "kind" then none else _) _
    rw [h.2]
    exact NodeKind.inverts_decode dialect n.kind
  · exact Field.reads_withDefault (decode_encodeOptional_without n.url)
  · exact Field.reads_withDefault (decode_encodeOptional_without n.urlVariable)
  · exact Field.reads_withDefault (decode_encodeOptional_without n.user)
  · exact Field.reads_withDefault (decode_encodeOptional_without n.password)
  · exact Field.reads_withDefault (decode_encodeOptional_without n.chain)
  · exact Field.reads_withDefault (decode_encodeOptional_without n.contract)

/-- Nodes are decoded if each of them keeps its asset id and its kind. -/
theorem items_without (nodes : List NodeConfig) {i : Nat}
    (h : ∀ j < nodes.length, (S.under (.item (i + j))).Identifies) (k : Nat) :
    Decoder.items decode dialect none k
        (Json.itemDocuments (Json.itemsWithout S i (nodes.map encode))) =
      .ok (omittingFrom S i nodes) := by
  induction nodes generalizing i k with
  | nil => rfl
  | cons n nodes ih =>
    have hfirst : (S.under (.item i)).Identifies := h 0 (Nat.zero_lt_succ _)
    have hrest : ∀ j < nodes.length, (S.under (.item (i + 1 + j))).Identifies := by
      intro j hj
      rw [Nat.add_assoc, Nat.add_comm 1 j]
      exact h (j + 1) (Nat.succ_lt_succ hj)
    rw [List.map_cons, Json.itemsWithout, Json.itemDocuments, Decoder.items,
      n.decode_without hfirst, ih hrest]
    rfl

end NodeConfig

/-! ## What is not decoded -/

namespace Decoder

variable {type : String} {build : Row fields → α} {x : α} {f : Field} {item : Json}
  {decode : Decoder α}

theorem members_of_decode_without
    (h : (record type fields).map build dialect ((Json.ofMembers members).without S).toDocument =
      .ok x) : ∃ row, recordOfMembers fields dialect
        (Json.memberDocuments (Json.membersWithout S (Keyed.ofList members))) none = .ok row := by
  rw [Json.ofMembers, Json.without] at h
  obtain ⟨row, hrow, -⟩ := Result.map_eq_ok_iff.1 h
  exact ⟨row, hrow⟩

/-- A member without which there is no structure may not be left out. -/
theorem decode_without_ne_ok (hfields : (fields.map (·.name)).Nodup) (hf : f ∈ fields)
    (hdefault : f.ifMissing = none) (hdrops : S.drops f.name = true) :
    (record type fields).map build dialect ((Json.ofMembers members).without S).toDocument ≠
      .ok x := by
  intro h
  obtain ⟨row, hrow⟩ := members_of_decode_without h
  refine recordOfMembers_ne_ok_of_missing hfields hf hdefault (fun d hd => ?_) hrow
  obtain ⟨item, hitem, -⟩ := Json.mem_memberDocuments.1 hd
  rw [(Json.mem_membersWithout.1 hitem).1] at hdrops
  cases hdrops

/-- A structure is decoded only if every member that is left and belongs to a field is. -/
theorem exists_of_decode_without (hfields : (fields.map (·.name)).Nodup)
    (hmembers : (members.map (·.1)).Nodup) (hf : f ∈ fields) (hdrops : S.drops f.name = false)
    (hitem : Keyed.find? f.name members = some item)
    (h : (record type fields).map build dialect ((Json.ofMembers members).without S).toDocument =
      .ok x) :
    ∃ y, f.decode dialect (item.without (S.under (.member f.name))).toDocument = .ok y := by
  obtain ⟨row, hrow⟩ := members_of_decode_without h
  obtain ⟨y, hy⟩ := exists_holds row hf
  have hfind : Keyed.find? f.name (Keyed.ofList members) = some item :=
    (Keyed.find?_ofList hmembers).trans hitem
  have hascending := Keyed.ascending_ofList members
  rcases of_recordOfMembers hfields hrow hy with ⟨d, hd, hvalue⟩ | ⟨hmissing, -⟩
  · obtain ⟨left, hleft, rfl⟩ := Json.mem_memberDocuments.1 hd
    obtain ⟨-, other, hother, rfl⟩ := Json.mem_membersWithout.1 hleft
    rw [(Keyed.find?_eq_some_iff hascending).2 hother] at hfind
    cases hfind
    exact ⟨y, hvalue⟩
  · have hleft := Json.mem_membersWithout.2
      ⟨hdrops, item, (Keyed.find?_eq_some_iff hascending).1 hfind, rfl⟩
    exact absurd (Json.mem_memberDocuments.2 ⟨_, hleft, rfl⟩) (hmissing _)

theorem exists_of_items {cut : Option Fault} {ds : List Document} {d : Document} {i : Nat}
    {xs : List α} (h : items decode dialect cut i ds = .ok xs) (hd : d ∈ ds) :
    ∃ x, decode dialect d = .ok x := by
  induction ds generalizing i xs with
  | nil => cases hd
  | cons first ds ih =>
    obtain ⟨y, hy, hrest⟩ := Result.bind_eq_ok_iff.1 h
    obtain ⟨ys, hys, -⟩ := Result.bind_eq_ok_iff.1 hrest
    rcases List.mem_cons.1 hd with rfl | hd
    · exact ⟨y, Result.mapError_eq_ok_iff.1 hy⟩
    · exact ih hys hd

end Decoder

theorem Json.mem_itemsWithout {items : List Json} {item : Json} {i j : Nat}
    (h : items[j]? = some item) : (item.without (S.under (.item (i + j)))).toDocument ∈
      Json.itemDocuments (Json.itemsWithout S i items) := by
  induction items generalizing i j with
  | nil => cases h
  | cons first items ih =>
    rw [itemsWithout, itemDocuments]
    cases j with
    | zero =>
      cases h
      exact List.mem_cons_self
    | succ j =>
      rw [Nat.add_comm j 1, ← Nat.add_assoc]
      exact List.mem_cons_of_mem _ (ih h)

theorem NodeConfig.decode_without_ne_ok {n n' : NodeConfig} (h : ¬S.Identifies) :
    decode dialect (n.encode.without S).toDocument ≠ .ok n' := by
  by_cases hasset : S.drops "asset_id" = true
  · exact Decoder.decode_without_ne_ok (f := .required "asset_id" Decoder.text) (by decide)
      (by simp) rfl hasset
  · have hkind : S.drops "kind" = true := by
      by_contra hkind
      exact h ⟨Bool.eq_false_iff.2 hasset, Bool.eq_false_iff.2 hkind⟩
    exact Decoder.decode_without_ne_ok (f := .required "kind" NodeKind.decode) (by decide)
      (by simp) rfl hkind

namespace Config

theorem nodes_without (nodes : List NodeConfig)
    (h : ∀ i < nodes.length, (S.under (.item i)).Identifies) :
    Decoder.list NodeConfig.decode dialect
        ((Json.array (nodes.map (·.encode))).without S).toDocument =
      .ok (NodeConfig.omittingFrom S 0 nodes) := by
  rw [Json.without, Json.toDocument, Decoder.list]
  refine NodeConfig.items_without nodes (fun j hj => ?_) 0
  rw [Nat.zero_add]
  exact h j hj

theorem decode_of_identifies {c : Config} (h : c.Identifies S) :
    decode dialect (c.encode.without S).toDocument = .ok (c.omitting S) := by
  refine Decoder.decode_ofMembers_without (by decide) (by simp)
    ⟨((c.omitting S).listener, (c.omitting S).timeouts, (c.omitting S).observability,
      (c.omitting S).nodes, ()), rfl, ?_, ?_, ?_, ?_, trivial⟩
  · exact Field.reads_withDefault c.listener.decode_without
  · exact Field.reads_withDefault c.timeouts.decode_without
  · exact Field.reads_withDefault c.observability.decode_without
  · rcases h with hdrops | hnodes
    · show Field.Reads _ dialect (if S.drops "nodes" then none else _) _
      rw [if_pos hdrops]
      exact congrArg some (if_pos hdrops : (c.omitting S).nodes = []).symm
    · exact Field.reads_withDefault (nodes_without c.nodes hnodes)

/-- There is no configuration if a node that is not left out lacks its asset id or its kind. -/
theorem decode_ne_ok_of_not_identifies {c c' : Config} (h : ¬c.Identifies S) :
    decode dialect (c.encode.without S).toDocument ≠ .ok c' := by
  intro hdecode
  obtain ⟨hdrops, hnodes⟩ := not_or.1 h
  obtain ⟨i, hnode⟩ := not_forall.1 hnodes
  obtain ⟨hi, hnode⟩ := Classical.not_imp.1 hnode
  obtain ⟨nodes, hlist⟩ := Decoder.exists_of_decode_without
    (f := .withDefault "nodes" (Decoder.list NodeConfig.decode) []) (by decide) (by simp) (by simp)
    (Bool.eq_false_iff.2 hdrops) rfl hdecode
  have hitem : (c.nodes.map (·.encode))[i]? = some c.nodes[i].encode := by simp [hi]
  have hmem := Json.mem_itemsWithout (S := S.under (.member "nodes")) (i := 0) hitem
  rw [Nat.zero_add] at hmem
  obtain ⟨n', hn'⟩ := Decoder.exists_of_items hlist hmem
  exact NodeConfig.decode_without_ne_ok hnode hn'

theorem keep_encode_without (c : Config) (S : Omission) :
    (c.encode.without S).toDocument.keep = .ok (c.encode.without S) :=
  Json.keep_toDocument (Json.Portable.without c.portable_encode : Json.Portable (0 + 3) _)

/-- Whatever set of members is left out of the document of a configuration, at whatever depth, what
    is left is decoded exactly if no node that is there lacks its asset id or its kind. It is the
    configuration with defaults for what is left out and everything else as it was: a section that is
    left out has the defaults of all its settings, one of which settings are left out has the
    defaults of these alone, and of a node that lacks optional settings these are absent. So is a
    configuration file read of which the same is kept as of what is left: its tables and their values
    may come in any order. -/
theorem decode_omitting (c : Config) (S : Omission) (dialect : Dialect) :
    (c.Identifies S → decode dialect (c.encode.without S).toDocument = .ok (c.omitting S)) ∧
    (¬c.Identifies S → ∃ e, decode dialect (c.encode.without S).toDocument = .error e) ∧
    ∀ text d, Toml.read? text = some d → d.keep = (c.encode.without S).toDocument.keep →
      (c.Identifies S → ofToml? text = .ok (c.omitting S)) ∧
      (¬c.Identifies S → ∃ e, ofToml? text = .error (.misfit e)) := by
  have herror {d : Document} (dialect : Dialect) (h : ∀ c', decode dialect d ≠ .ok c') :
      ∃ e, decode dialect d = .error e := by
    cases hdecode : decode dialect d with
    | error e => exact ⟨e, rfl⟩
    | ok c' => exact absurd hdecode (h c')
  refine ⟨decode_of_identifies,
    fun h => herror dialect fun _ => decode_ne_ok_of_not_identifies h, ?_⟩
  intro text d htext hkeep
  have hsame (c' : Config) : decode .toml d = .ok c' ↔
      decode .toml (c.encode.without S).toDocument = .ok c' :=
    decode_eq_ok_iff_of_keep (Toml.distinct_of_read? htext) (hkeep.trans (c.keep_encode_without S))
  constructor
  · intro h
    rw [ofToml?, htext]
    exact Result.mapError_eq_ok_iff.2 ((hsame _).2 (decode_of_identifies h))
  · intro h
    obtain ⟨e, he⟩ := herror .toml fun c' hc' =>
      decode_ne_ok_of_not_identifies h ((hsame c').1 hc')
    refine ⟨e, ?_⟩
    rw [ofToml?, htext]
    exact Result.mapError_eq_error_iff.2 ⟨e, he, rfl⟩

/-- A configuration without defaults. -/
def sampleSettings : Config where
  listener := ⟨"127.0.0.1:80"⟩
  timeouts := ⟨10, 7, 20⟩
  observability := ⟨"debug", true, true, "127.0.0.1:90"⟩
  nodes := [{ asset := "XRP", kind := .ripple, url := some "localhost:5005", chain := some "main" }]

/-- Leaves out a section, all but one setting of another, and what a node does not need but its
    URL. -/
def sampleOmission : Omission
  | [.member "listener"] => true
  | [.member "timeouts", .member name] => name ≠ "rpc_secs"
  | [.member "nodes", .item _, .member name] => name ∉ ["asset_id", "kind", "url"]
  | _ => false

/-- A configuration file with what is left, in another order. -/
def sampleFile : String :=
  "[timeouts]\nrpc_secs = 7\n" ++
  "[[nodes]]\nurl = \"localhost:5005\"\nkind = \"ripple\"\nasset_id = \"XRP\"\n" ++
  "[observability]\nmetrics_enabled = true\nlog_level = \"debug\"\n" ++
  "metrics_address = \"127.0.0.1:90\"\njson_logs = true\n"

/-- The document of this file. -/
def sampleDocument : Document := .record [
  ("timeouts", .record [("rpc_secs", .number (.integer 7))]),
  ("nodes", .list [.record [
    ("url", .text "localhost:5005"), ("kind", .text "ripple"), ("asset_id", .text "XRP")]]),
  ("observability", .record [
    ("metrics_enabled", .bool true), ("log_level", .text "debug"),
    ("metrics_address", .text "127.0.0.1:90"), ("json_logs", .bool true)])]

/-- Leaves out the kinds of nodes too. -/
def kindlessOmission : Omission
  | [.member "nodes", .item _, .member "kind"] => true
  | path => sampleOmission path

theorem read?_sampleFile : Toml.read? sampleFile = some sampleDocument := by
  cbv

theorem keep_sampleDocument :
    sampleDocument.keep = (sampleSettings.encode.without sampleOmission).toDocument.keep := by
  cbv

/-- What is left is decoded with defaults, and so is the file; without the kind of the node it is
    not decoded. -/
theorem decode_omitting_sampleSettings :
    (∃ c, decode .toml (sampleSettings.encode.without sampleOmission).toDocument = .ok c ∧
      ofToml? sampleFile = .ok c ∧ c.listener = {} ∧ c.timeouts = { rpc := 7 } ∧
      c.observability = sampleSettings.observability) ∧
    ∃ e, decode .toml (sampleSettings.encode.without kindlessOmission).toDocument = .error e := by
  have hkeeps : sampleSettings.Identifies sampleOmission := by
    unfold Identifies Omission.Identifies
    decide
  have hlacks : ¬sampleSettings.Identifies kindlessOmission := by
    unfold Identifies Omission.Identifies
    decide
  obtain ⟨hleft, -, hfile⟩ := decode_omitting sampleSettings sampleOmission .toml
  obtain ⟨hread, -⟩ := hfile sampleFile sampleDocument read?_sampleFile keep_sampleDocument
  obtain ⟨-, hlacking, -⟩ := decode_omitting sampleSettings kindlessOmission .toml
  exact ⟨⟨_, hleft hkeeps, hread hkeeps, rfl, rfl, rfl⟩, hlacking hlacks⟩

end Config

end AssetOracle
