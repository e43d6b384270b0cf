import AssetOracle.Net.Address
import Mathlib.Data.List.Basic

/-!
# Texts with separators

Texts without a separator that are put together with one between them are what comes out when the
whole is taken apart again (`splitOn_intercalate`). Nothing but separators is lost on either way:
there is one text more than there are separators, and the bytes of both add up.
-/

namespace AssetOracle.Net

open String (utf8EncodeChar)

variable {c sep : Char} {cs text : List Char} {texts : List (List Char)}

/-! ## Taking apart -/

theorem splitOn_ne_nil (sep : Char) (cs : List Char) : splitOn sep cs ≠ [] := by
  cases cs with
  | nil => exact List.cons_ne_nil _ _
  | cons c cs =>
    rw [splitOn]
    split
    · exact List.cons_ne_nil _ _
    · split <;> exact List.cons_ne_nil _ _

theorem splitOn_of_not_mem (h : sep ∉ cs) : splitOn sep cs = [cs] := by
  induction cs with
  | nil => rfl
  | cons c cs ih =>
    rw [List.mem_cons, not_or] at h
    obtain ⟨hc, hcs⟩ := h
    rw [splitOn, if_neg (Ne.symm hc), ih hcs]

theorem splitOn_append_cons (h : sep ∉ cs) (rest : List Char) :
    splitOn sep (cs ++ sep :: rest) = cs :: splitOn sep rest := by
  induction cs with
  | nil => rw [List.nil_append, splitOn, if_pos rfl]
  | cons c cs ih =>
    rw [List.mem_cons, not_or] at h
    obtain ⟨hc, hcs⟩ := h
    rw [List.cons_append, splitOn, if_neg (Ne.symm hc), ih hcs]

theorem length_splitOn (sep : Char) (cs : List Char) :
    (splitOn sep cs).length = cs.count sep + 1 := by
  induction cs with
  | nil => rfl
  | cons c cs ih =>
    rw [splitOn]
    by_cases hc : c = sep
    · rw [if_pos hc, List.length_cons, ih, hc, List.count_cons_self]
    · rw [if_neg hc, List.count_cons_of_ne (by simpa using hc), ← ih]
      cases hsplit : splitOn sep cs with
      | nil => exact absurd hsplit (splitOn_ne_nil sep cs)
      | cons first more => rfl

theorem not_mem_of_mem_splitOn (h : text ∈ splitOn sep cs) : sep ∉ text := by
  induction cs generalizing text with
  | nil =>
    obtain rfl := List.mem_singleton.1 h
    simp
  | cons c cs ih =>
    rw [splitOn] at h
    by_cases hc : c = sep
    · rw [if_pos hc] at h
      rcases List.mem_cons.1 h with rfl | h
      · simp
      · exact ih h
    · rw [if_neg hc] at h
      cases hsplit : splitOn sep cs with
      | nil => exact absurd hsplit (splitOn_ne_nil sep cs)
      | cons first more =>
        rw [hsplit] at h ih
        rcases List.mem_cons.1 h with rfl | h
        · have hfirst := ih List.mem_cons_self
          rw [List.mem_cons, not_or]
          exact ⟨Ne.symm hc, hfirst⟩
        · exact ih (List.mem_cons_of_mem _ h)

/-! ## Putting together -/

theorem splitOn_intercalate {texts : List (List Char)} (hne : texts ≠ [])
    (h : ∀ text ∈ texts, sep ∉ text) : splitOn sep ([sep].intercalate texts) = texts := by
  induction texts with
  | nil => exact absurd rfl hne
  | cons text texts ih =>
    obtain ⟨htext, htexts⟩ := List.forall_mem_cons.1 h
    cases texts with
    | nil => simpa [List.intercalate] using splitOn_of_not_mem htext
    | cons next more =>
      rw [List.intercalate_cons_cons, List.append_assoc, List.singleton_append,
        splitOn_append_cons htext, ih (List.cons_ne_nil _ _) htexts]

theorem mem_intercalate (h : c ∈ [sep].intercalate texts) : c = sep ∨ ∃ text ∈ texts, c ∈ text := by
  induction texts with
  | nil => cases h
  | cons text texts ih =>
    cases texts with
    | nil => exact .inr ⟨text, List.mem_cons_self, by simpa [List.intercalate] using h⟩
    | cons next more =>
      rw [List.intercalate_cons_cons, List.mem_append, List.mem_append, List.mem_singleton] at h
      rcases h with (h | h) | h
      · exact .inr ⟨text, List.mem_cons_self, h⟩
      · exact .inl h
      · exact (ih h).imp_right fun ⟨text, htext, hc⟩ => ⟨text, List.mem_cons_of_mem _ htext, hc⟩

theorem mem_intercalate_of_mem (htext : text ∈ texts) (hc : c ∈ text) :
    c ∈ [sep].intercalate texts := by
  induction texts with
  | nil => cases htext
  | cons first texts ih =>
    cases texts with
    | nil =>
      obtain rfl := List.mem_singleton.1 htext
      simpa [List.intercalate] using hc
    | cons next more =>
      rw [List.intercalate_cons_cons, List.mem_append, List.mem_append]
      rcases List.mem_cons.1 htext with rfl | htext
      · exact .inl (.inl hc)
      · exact .inr (ih htext)

theorem getLast?_intercalate {last : List Char} (hlast : last ≠ []) (front : List (List Char)) :
    ([sep].intercalate (front ++ [last])).getLast? = last.getLast? := by
  induction front with
  | nil => simp [List.intercalate]
  | cons text front ih =>
    obtain ⟨next, more, heq⟩ := List.exists_cons_of_ne_nil (l := front ++ [last]) (by simp)
    rw [heq] at ih
    rw [List.cons_append, heq, List.intercalate_cons_cons, List.getLast?_append, ih]
    exact Option.or_of_isSome (by simpa using hlast)

theorem map_intercalate (f : Char → Char) (hsep : f sep = sep) (texts : List (List Char)) :
    ([sep].intercalate texts).map f = [sep].intercalate (texts.map (·.map f)) := by
  induction texts with
  | nil => rfl
  | cons text texts ih =>
    cases texts with
    | nil => simp [List.intercalate]
    | cons next more =>
      rw [List.intercalate_cons_cons, List.map_append, List.map_append, ih]
      simp only [List.map_cons, List.map_nil, hsep, List.intercalate_cons_cons]

theorem length_le_count_intercalate (hne : texts ≠ []) :
    texts.length ≤ ([sep].intercalate texts).count sep + 1 := by
  induction texts with
  | nil => exact absurd rfl hne
  | cons text texts ih =>
    cases texts with
    | nil => simp
    | cons next more =>
      have hrest := ih (List.cons_ne_nil _ _)
      rw [List.intercalate_cons_cons, List.count_append, List.count_append,
        List.count_singleton_self, List.length_cons]
      omega

/-- If there are no more separators than between texts, none is in a text. -/
theorem not_mem_of_count_intercalate (h : ([sep].intercalate texts).count sep + 1 ≤ texts.length) :
    ∀ text ∈ texts, sep ∉ text := by
  induction texts with
  | nil => simp
  | cons text texts ih =>
    cases texts with
    | nil => simpa [List.intercalate, List.count_eq_zero] using h
    | cons next more =>
      have hrest : (next :: more).length ≤ ([sep].intercalate (next :: more)).count sep + 1 :=
        length_le_count_intercalate (List.cons_ne_nil next more)
      rw [List.intercalate_cons_cons, List.count_append, List.count_append,
        List.count_singleton_self, List.length_cons] at h
      rw [List.forall_mem_cons]
      exact ⟨List.count_eq_zero.1 (by omega), ih (by omega)⟩

/-! ## Counting bytes -/

/-- The number of bytes of a text. -/
def weight (cs : List Char) : Nat := (cs.flatMap utf8EncodeChar).length

/-- The number of bytes of texts with one more for each. -/
def total : List (List Char) → Nat
  | [] => 0
  | text :: texts => weight text + 1 + total texts

@[simp] theorem weight_nil : weight [] = 0 := rfl

@[simp] theorem weight_cons : weight (c :: cs) = c.utf8Size + weight cs := by simp [weight]

@[simp] theorem weight_append : weight (cs ++ text) = weight cs + weight text := by simp [weight]

@[simp] theorem total_nil : total [] = 0 := rfl

@[simp] theorem total_cons : total (text :: texts) = weight text + 1 + total texts := rfl

theorem weight_pos (h : cs ≠ []) : 0 < weight cs := by
  cases cs with
  | nil => exact absurd rfl h
  | cons c cs =>
    have hpos := c.utf8Size_pos
    rw [weight_cons]
    omega

theorem weight_le_of_sublist (h : text.Sublist cs) : weight text ≤ weight cs := by
  induction h with
  | slnil => exact Nat.le_refl _
  | cons c _ ih =>
    rw [weight_cons]
    omega
  | cons_cons c _ ih =>
    rw [weight_cons, weight_cons]
    omega

/-- A text that characters were taken out of has fewer bytes. -/
theorem eq_of_sublist_of_weight (h : text.Sublist cs) (hweight : weight cs ≤ weight text) :
    text = cs := by
  induction h with
  | slnil => rfl
  | cons c hsub ih =>
    have hle := weight_le_of_sublist hsub
    have hpos := c.utf8Size_pos
    rw [weight_cons] at hweight
    omega
  | cons_cons c _ ih =>
    rw [weight_cons, weight_cons] at hweight
    rw [ih (by omega)]

theorem weight_map {f : Char → Char} (h : ∀ c, (f c).utf8Size = c.utf8Size) :
    weight (cs.map f) = weight cs := by
  induction cs with
  | nil => rfl
  | cons c cs ih => rw [List.map_cons, weight_cons, weight_cons, h, ih]

/-- Taking a text apart takes nothing but separators out of it. -/
theorem total_splitOn (h : sep.utf8Size = 1) (cs : List Char) :
    total (splitOn sep cs) = weight cs + 1 := by
  induction cs with
  | nil => rfl
  | cons c cs ih =>
    rw [splitOn, weight_cons]
    by_cases hc : c = sep
    · rw [if_pos hc, total_cons, ih, hc, h, weight_nil]
      omega
    · rw [if_neg hc]
      cases hsplit : splitOn sep cs with
      | nil => exact absurd hsplit (splitOn_ne_nil sep cs)
      | cons first more =>
        rw [hsplit, total_cons] at ih
        rw [total_cons, weight_cons]
        omega

theorem total_eq_of_intercalate (h : sep.utf8Size = 1) (hne : texts ≠ []) :
    total texts = weight ([sep].intercalate texts) + 1 := by
  induction texts with
  | nil => exact absurd rfl hne
  | cons text texts ih =>
    cases texts with
    | nil => simp [List.intercalate]
    | cons next more =>
      rw [List.intercalate_cons_cons, total_cons, ih (List.cons_ne_nil _ _), weight_append,
        weight_append, weight_cons, weight_nil, h]
      omega

end AssetOracle.Net
