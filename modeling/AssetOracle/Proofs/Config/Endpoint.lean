import AssetOracle.Config.Endpoint
import AssetOracle.Proofs.Text.Blank
import Mathlib.Logic.Relation

/-!
# Endpoints in normal form

A node's URL may be written in several ways: with white space around it, without a scheme, or not at
all. Normalisation gives each of them the one form that has none of these liberties
(`isEndpoint_normalizeEndpoint`), and two ways to write a URL have the same form exactly if they
respell the same endpoint (`normalizeEndpoint_eq_iff`).
-/

namespace AssetOracle

open Text (AllBlank Trimmed Surrounds isBlank trim)

variable {core s x : String} {raw other : Option String} {env : Environment} {node : NodeConfig}
  {value : String}

/-! ## Schemes -/

/-- Whether a text begins with one of the two schemes. -/
def StartsWithScheme (s : String) : Prop :=
  ∃ rest, s = "http://" ++ rest ∨ s = "https://" ++ rest

theorem isPrefixOf_toList_iff {front : String} :
    front.toList.isPrefixOf s.toList = true ↔ ∃ rest, s = front ++ rest := by
  rw [List.isPrefixOf_iff_prefix]
  constructor
  · rintro ⟨rest, hrest⟩
    exact ⟨String.ofList rest, String.toList_injective (by simp [hrest])⟩
  · rintro ⟨rest, rfl⟩
    exact ⟨rest.toList, (String.toList_append ..).symm⟩

theorem hasWebScheme_iff : hasWebScheme s = true ↔ StartsWithScheme s := by
  rw [hasWebScheme, Bool.or_eq_true, isPrefixOf_toList_iff, isPrefixOf_toList_iff, ← exists_or]
  rfl

theorem StartsWithScheme.append (h : StartsWithScheme s) (t : String) :
    StartsWithScheme (s ++ t) := by
  obtain ⟨rest, rfl | rfl⟩ := h
  · exact ⟨rest ++ t, .inl (String.append_assoc ..)⟩
  · exact ⟨rest ++ t, .inr (String.append_assoc ..)⟩

/-- The form of an endpoint: it is not empty, there is no white space at either end, and a scheme
    is in front. -/
structure IsEndpoint (s : String) : Prop where
  ne_empty : s ≠ ""
  trimmed : Trimmed s.toList
  scheme : StartsWithScheme s

/-- A text that gives an endpoint without its scheme: there is more to it than white space, which it
    does not begin with, and it does not begin with a scheme either. -/
structure IsBare (x : String) : Prop where
  not_blank : ¬ AllBlank x.toList
  head : ∀ c ∈ x.toList.head?, isBlank c = false
  no_scheme : ¬ StartsWithScheme x

theorem IsBare.ne_empty (h : IsBare x) : x ≠ "" := by
  rintro rfl
  exact h.not_blank (by decide)

/-- A scheme in front of a text leaves its end as it is. -/
theorem isEndpoint_http (hne : s ≠ "") (h : Trimmed s.toList) : IsEndpoint ("http://" ++ s) := by
  refine ⟨by simp, ⟨?_, ?_⟩, s, .inl rfl⟩
  · intro c hc
    obtain rfl : 'h' = c := by simpa using hc
    decide
  · have hsome : s.toList.getLast?.isSome :=
      List.getLast?_isSome.2 (String.toList_eq_nil_iff.not.2 hne)
    rw [String.toList_append, List.getLast?_append, Option.or_of_isSome hsome]
    exact h.2

/-! ## What normalisation gives -/

/-- Without the white space around it, a text is empty, an endpoint, or bare. -/
theorem normalizeEndpoint_cases (s : String) :
    trim s = "" ∧ normalizeEndpoint (some s) = defaultEndpoint ∨
      IsEndpoint (trim s) ∧ normalizeEndpoint (some s) = trim s ∨
      IsBare (trim s) ∧ normalizeEndpoint (some s) = "http://" ++ trim s := by
  by_cases hempty : trim s = ""
  · exact .inl ⟨hempty, by simp [normalizeEndpoint, hempty]⟩
  · by_cases hscheme : StartsWithScheme (trim s)
    · refine .inr (.inl ⟨⟨hempty, Text.trimmed_trim s, hscheme⟩, ?_⟩)
      simp [normalizeEndpoint, hempty, hasWebScheme_iff.2 hscheme]
    · have hblank : ¬ AllBlank (trim s).toList := by
        rwa [← Text.trim_eq_empty_iff, Text.trim_trim]
      refine .inr (.inr ⟨⟨hblank, (Text.trimmed_trim s).1, hscheme⟩, ?_⟩)
      simp [normalizeEndpoint, hempty, hasWebScheme_iff.not.2 hscheme]

theorem normalizeEndpoint_of_surrounds (h : Surrounds core s) :
    normalizeEndpoint (some s) = normalizeEndpoint (some core) := by
  simp only [normalizeEndpoint, Option.getD_some, Text.trim_of_surrounds h]

theorem isEndpoint_defaultEndpoint : IsEndpoint defaultEndpoint := by
  have hhost : IsEndpoint ("http://" ++ "localhost") := isEndpoint_http (by decide) (by decide)
  exact hhost

theorem isEndpoint_normalizeEndpoint (raw : Option String) :
    IsEndpoint (normalizeEndpoint raw) := by
  cases raw with
  | none => exact isEndpoint_defaultEndpoint
  | some s =>
    rcases normalizeEndpoint_cases s with ⟨-, heq⟩ | ⟨hendpoint, heq⟩ | ⟨hbare, heq⟩
    · rw [heq]
      exact isEndpoint_defaultEndpoint
    · rw [heq]
      exact hendpoint
    · rw [heq]
      exact isEndpoint_http hbare.ne_empty (Text.trimmed_trim s)

/-- An endpoint is its own normal form. -/
theorem normalizeEndpoint_of_isEndpoint (h : IsEndpoint s) : normalizeEndpoint (some s) = s := by
  have hcases := normalizeEndpoint_cases s
  rw [Text.trim_of_trimmed h.trimmed] at hcases
  rcases hcases with ⟨hempty, -⟩ | ⟨-, heq⟩ | ⟨hbare, -⟩
  · exact absurd hempty h.ne_empty
  · exact heq
  · exact absurd h.scheme hbare.no_scheme

/-! ## Ways to write an endpoint -/

/-- What is written in one way and can be written in another one: an endpoint that is not given, or
    left empty, is the default one, white space around it does not count, and a missing scheme is
    the plain one. -/
inductive Respells : Option String → Option String → Prop where
  | missing : Respells none (some defaultEndpoint)
  | empty : Respells (some "") (some defaultEndpoint)
  | surrounded {core s : String} (h : Surrounds core s) : Respells (some s) (some core)
  | bare {x : String} (h : IsBare x) : Respells (some x) (some ("http://" ++ x))

/-- Whether two texts, either of which may be missing, are ways to write one endpoint. -/
def SameEndpoint (raw other : Option String) : Prop := Relation.EqvGen Respells raw other

/-- A bare text stays bare without the white space at its end. -/
theorem normalizeEndpoint_eq_http (h : IsBare x) :
    normalizeEndpoint (some x) = "http://" ++ trim x := by
  rcases normalizeEndpoint_cases x with ⟨hempty, -⟩ | ⟨hendpoint, -⟩ | ⟨-, heq⟩
  · exact absurd (Text.trim_eq_empty_iff.1 hempty) h.not_blank
  · -- only the end of the text is cut off, so its scheme would have been there before
    obtain ⟨back, -, hx⟩ := Text.exists_toList_eq_trim_append h.head
    have heq : x = trim x ++ String.ofList back := String.toList_injective (by simpa using hx)
    have hscheme : StartsWithScheme (trim x ++ String.ofList back) := hendpoint.scheme.append _
    rw [← heq] at hscheme
    exact absurd hscheme h.no_scheme
  · exact heq

/-- The scheme that a bare text lacks can be written in front of it. -/
theorem normalizeEndpoint_of_isBare (h : IsBare x) :
    normalizeEndpoint (some x) = normalizeEndpoint (some ("http://" ++ x)) := by
  obtain ⟨back, hback, hx⟩ := Text.exists_toList_eq_trim_append h.head
  have hsurrounds : Surrounds ("http://" ++ trim x) ("http://" ++ x) :=
    ⟨[], back, by decide, hback, by
      rw [String.toList_append, hx, String.toList_append, List.nil_append, List.append_assoc]⟩
  have hne : trim x ≠ "" := Text.trim_eq_empty_iff.not.2 h.not_blank
  calc normalizeEndpoint (some x)
      = "http://" ++ trim x := normalizeEndpoint_eq_http h
    _ = normalizeEndpoint (some ("http://" ++ trim x)) :=
        (normalizeEndpoint_of_isEndpoint (isEndpoint_http hne (Text.trimmed_trim x))).symm
    _ = normalizeEndpoint (some ("http://" ++ x)) :=
        (normalizeEndpoint_of_surrounds hsurrounds).symm

theorem normalizeEndpoint_of_respells (h : Respells raw other) :
    normalizeEndpoint raw = normalizeEndpoint other := by
  cases h with
  | missing => exact (normalizeEndpoint_of_isEndpoint isEndpoint_defaultEndpoint).symm
  | empty => exact (normalizeEndpoint_of_isEndpoint isEndpoint_defaultEndpoint).symm
  | surrounded h => exact normalizeEndpoint_of_surrounds h
  | bare h => exact normalizeEndpoint_of_isBare h

/-- The normal form is a way to write what it is the form of. -/
theorem sameEndpoint_normalizeEndpoint (raw : Option String) :
    SameEndpoint raw (some (normalizeEndpoint raw)) := by
  cases raw with
  | none => exact .rel _ _ .missing
  | some s =>
    have htrim : SameEndpoint (some s) (some (trim s)) :=
      .rel _ _ (.surrounded (Text.surrounds_trim s))
    refine htrim.trans _ _ _ ?_
    rcases normalizeEndpoint_cases s with ⟨hempty, heq⟩ | ⟨-, heq⟩ | ⟨hbare, heq⟩
    · rw [heq, hempty]
      exact .rel _ _ .empty
    · rw [heq]
      exact .refl _
    · rw [heq]
      exact .rel _ _ (.bare hbare)

theorem normalizeEndpoint_eq_iff :
    normalizeEndpoint raw = normalizeEndpoint other ↔ SameEndpoint raw other := by
  constructor
  · intro h
    have hraw := sameEndpoint_normalizeEndpoint raw
    rw [h] at hraw
    exact hraw.trans _ _ _ (sameEndpoint_normalizeEndpoint other).symm
  · intro h
    induction h with
    | rel raw other h => exact normalizeEndpoint_of_respells h
    | refl raw => rfl
    | symm raw other _ ih => exact ih.symm
    | trans raw between other _ _ ih later => exact ih.trans later

/-! ## The endpoint of a node -/

namespace NodeConfig

/-- Whether the environment gives a node its endpoint: the variable that the node names is set, and
    to more than white space. -/
def IsOverridden (env : Environment) (node : NodeConfig) (value : String) : Prop :=
  ∃ name, node.urlVariable = some name ∧ env name = some value ∧ ¬ AllBlank value.toList

/-- The text that a node's endpoint is taken from: the value in the environment, if it gives the
    node one, and else the configured text, which may be missing. -/
inductive Gives (env : Environment) (node : NodeConfig) : Option String → Prop where
  | environment {value : String} (h : node.IsOverridden env value) : Gives env node (some value)
  | configured (h : ∀ value, ¬ node.IsOverridden env value) : Gives env node node.url

theorem exists_gives (env : Environment) (node : NodeConfig) : ∃ raw, node.Gives env raw := by
  by_cases h : ∃ value, node.IsOverridden env value
  · obtain ⟨value, hvalue⟩ := h
    exact ⟨some value, .environment hvalue⟩
  · exact ⟨node.url, .configured (not_exists.1 h)⟩

theorem isOverridden_iff : node.IsOverridden env value ↔
    ((node.urlVariable.bind env).filter fun value => !(trim value).isEmpty) = some value := by
  simp [IsOverridden, Option.filter_eq_some_iff, Option.bind_eq_some_iff, Text.trim_eq_empty_iff,
    ← and_assoc]

theorem endpoint_of_gives (h : node.Gives env raw) : node.endpoint env = normalizeEndpoint raw := by
  cases h with
  | environment h => rw [endpoint, isOverridden_iff.1 h, Option.some_or]
  | configured h =>
    have hnone : ((node.urlVariable.bind env).filter fun value => !(trim value).isEmpty) = none :=
      Option.eq_none_iff_forall_ne_some.2 fun value hvalue => h value (isOverridden_iff.2 hvalue)
    rw [endpoint, hnone, Option.none_or]

/-- Whether what two nodes give is one endpoint. -/
def SharesEndpoint (env : Environment) (node other : NodeConfig) : Prop :=
  ∃ raw text, node.Gives env raw ∧ other.Gives env text ∧ SameEndpoint raw text

theorem endpoint_eq_iff {other : NodeConfig} :
    node.endpoint env = other.endpoint env ↔ node.SharesEndpoint env other := by
  constructor
  · intro h
    obtain ⟨raw, hraw⟩ := node.exists_gives env
    obtain ⟨text, htext⟩ := other.exists_gives env
    rw [endpoint_of_gives hraw, endpoint_of_gives htext] at h
    exact ⟨raw, text, hraw, htext, normalizeEndpoint_eq_iff.1 h⟩
  · rintro ⟨raw, text, hraw, htext, h⟩
    rw [endpoint_of_gives hraw, endpoint_of_gives htext]
    exact normalizeEndpoint_eq_iff.2 h

end NodeConfig

end AssetOracle
