import AssetOracle.Decimal.Fixed
import Mathlib.Algebra.Ring.Nat
import Mathlib.Data.List.Basic
import Mathlib.Data.List.TakeWhile
import Mathlib.Tactic.ByContra

/-!
# Decimal numerals

A numeral is an optional minus sign, digits, and perhaps a point with more digits (`IsNumeral`).
What the fixed notations write is a numeral for every count of units; a binary number is written as
one exactly if it is finite (`isNumeral_fixed_iff`).
-/

namespace AssetOracle.Decimal

variable {c : Char} {cs : List Char} {places units n : Nat} {x : Binary64}

/-- Whether characters are one or more decimal digits. -/
def IsDigits (cs : List Char) : Prop := cs ≠ [] ∧ ∀ c ∈ cs, c.isDigit = true

/-- Whether characters are digits, perhaps with a point and more digits behind them. -/
def IsUnsigned (cs : List Char) : Prop :=
  ∃ whole, IsDigits whole ∧ (cs = whole ∨ ∃ fraction, IsDigits fraction ∧ cs = whole ++ '.' :: fraction)

/-- Whether a text is a plain decimal numeral. -/
def IsNumeral (s : String) : Prop :=
  ∃ cs, IsUnsigned cs ∧ (s.toList = cs ∨ s.toList = '-' :: cs)

/-! ## What a numeral is made of -/

theorem mem_of_isUnsigned (h : IsUnsigned cs) (hc : c ∈ cs) : c.isDigit = true ∨ c = '.' := by
  obtain ⟨whole, hwhole, rfl | ⟨fraction, hfraction, rfl⟩⟩ := h
  · exact .inl (hwhole.2 c hc)
  · rcases List.mem_append.1 hc with hc | hc
    · exact .inl (hwhole.2 c hc)
    · rcases List.mem_cons.1 hc with rfl | hc
      · exact .inr rfl
      · exact .inl (hfraction.2 c hc)

theorem mem_of_isNumeral {s : String} (h : IsNumeral s) (hc : c ∈ s.toList) :
    c.isDigit = true ∨ c = '.' ∨ c = '-' := by
  obtain ⟨cs, hcs, hs | hs⟩ := h
  · rw [hs] at hc
    exact (mem_of_isUnsigned hcs hc).imp_right .inl
  · rw [hs] at hc
    rcases List.mem_cons.1 hc with rfl | hc
    · exact .inr (.inr rfl)
    · exact (mem_of_isUnsigned hcs hc).imp_right .inl

/-- A text with another character is no numeral. -/
theorem not_isNumeral_of_mem {s : String} (hc : c ∈ s.toList)
    (hother : c.isDigit = false ∧ c ≠ '.' ∧ c ≠ '-') : ¬ IsNumeral s := by
  intro h
  obtain ⟨hdigit, hpoint, hsign⟩ := hother
  rcases mem_of_isNumeral h hc with hc | hc | hc
  · rw [hdigit] at hc
    cases hc
  · exact hpoint hc
  · exact hsign hc

/-! ## Digits -/

theorem isDigits_digits (n : Nat) : IsDigits (digits n) :=
  ⟨Nat.toDigits_ne_nil, fun _ hc => Nat.isDigit_of_mem_toDigits (by decide) (by decide) hc⟩

theorem isDigits_padded (width n : Nat) : IsDigits (padded width n) := by
  obtain ⟨hne, hdigits⟩ := isDigits_digits n
  refine ⟨List.append_ne_nil_of_right_ne_nil _ hne, fun c hc => ?_⟩
  rcases List.mem_append.1 hc with hc | hc
  · rw [(List.mem_replicate.1 hc).2]
    decide
  · exact hdigits c hc

/-- The first digit of a number other than zero is not zero, by induction on the number without its
    last digit. -/
theorem head?_digits_ne_zero (h : n ≠ 0) : (digits n).head? ≠ some '0' := by
  induction n using Nat.strongRecOn with
  | ind n ih =>
    by_cases hn : n < 10
    · rw [digits, Nat.toDigits_of_lt_base hn]
      have hchar : ∀ d : Fin 10, d.val ≠ 0 → d.val.digitChar ≠ '0' := by decide
      exact fun hhead => hchar ⟨n, hn⟩ h (Option.some.inj hhead)
    · rw [digits, Nat.toDigits_of_base_le (by decide) (by omega),
        List.head?_append_of_ne_nil _ Nat.toDigits_ne_nil]
      exact ih (n / 10) (by omega) (by omega)

/-- A number other than zero has a digit other than zero. -/
theorem exists_digit_ne_zero (h : n ≠ 0) : ∃ c ∈ digits n, c ≠ '0' := by
  have hhead := head?_digits_ne_zero h
  obtain ⟨c, more, hdigits⟩ := List.exists_cons_of_ne_nil (isDigits_digits n).1
  rw [hdigits] at hhead ⊢
  exact ⟨c, List.mem_cons_self, fun hzero => hhead (congrArg some hzero)⟩

theorem isDigits_dropZeros (h : IsDigits cs) (hzero : ∃ c ∈ cs, c ≠ '0') :
    IsDigits (dropZeros cs) := by
  obtain ⟨c, hc, hne⟩ := hzero
  constructor
  · intro hnil
    have hdrop : cs.reverse.dropWhile (· = '0') = [] := List.reverse_eq_nil_iff.1 hnil
    have hall := List.dropWhile_eq_nil_iff.1 hdrop c (List.mem_reverse.2 hc)
    exact hne (of_decide_eq_true hall)
  · intro d hd
    have hd : d ∈ cs.reverse := (List.dropWhile_sublist _).subset (List.mem_reverse.1 hd)
    exact h.2 d (List.mem_reverse.1 hd)

/-! ## Notations -/

theorem isUnsigned_pointed (places units : Nat) : IsUnsigned (pointed places units) :=
  ⟨_, isDigits_digits _, .inr ⟨_, isDigits_padded _ _, rfl⟩⟩

/-- A whole number is written without a point. -/
theorem scaled_of_dvd (h : 10 ^ places ∣ units) :
    scaled places units = digits (units / 10 ^ places) :=
  if_pos (Nat.mod_eq_zero_of_dvd h)

theorem scaled_of_not_dvd (h : ¬10 ^ places ∣ units) :
    scaled places units =
      digits (units / 10 ^ places) ++ '.' :: dropZeros (padded places (units % 10 ^ places)) :=
  if_neg fun hmod => h (Nat.dvd_of_mod_eq_zero hmod)

theorem isDigits_fraction (h : ¬10 ^ places ∣ units) :
    IsDigits (dropZeros (padded places (units % 10 ^ places))) := by
  have hmod : units % 10 ^ places ≠ 0 := fun hmod => h (Nat.dvd_of_mod_eq_zero hmod)
  obtain ⟨c, hc, hzero⟩ := exists_digit_ne_zero hmod
  exact isDigits_dropZeros (isDigits_padded _ _) ⟨c, List.mem_append_right _ hc, hzero⟩

theorem isUnsigned_scaled (places units : Nat) : IsUnsigned (scaled places units) := by
  by_cases h : 10 ^ places ∣ units
  · rw [scaled_of_dvd h]
    exact ⟨_, isDigits_digits _, .inl rfl⟩
  · rw [scaled_of_not_dvd h]
    exact ⟨_, isDigits_digits _, .inr ⟨_, isDigits_fraction h, rfl⟩⟩

theorem isNumeral_ofList (h : IsUnsigned cs) : IsNumeral (String.ofList cs) :=
  ⟨cs, h, .inl String.toList_ofList⟩

theorem isNumeral_toString (n : Nat) : IsNumeral (toString n) :=
  ⟨digits n, ⟨_, isDigits_digits n, .inl rfl⟩, .inl Nat.toList_repr⟩

theorem isNumeral_fixed_of_isFinite (h : x.isFinite = true) :
    IsNumeral (String.ofList (x.fixed places)) := by
  unfold Binary64.isFinite at h
  cases hview : x.view with
  | finite negative significand exponent =>
    have hunits := isUnsigned_pointed places (nearestUnits places significand exponent)
    refine ⟨_, hunits, ?_⟩
    rw [Binary64.fixed, hview, String.toList_ofList]
    cases negative with
    | false => exact .inl rfl
    | true => exact .inr rfl
  | infinite negative => simp [hview] at h
  | notANumber => simp [hview] at h

/-- A number that is not finite is written as a word. -/
theorem fixed_of_not_isFinite (h : x.isFinite = false) :
    String.ofList (x.fixed places) ∈ ["inf", "-inf", "NaN"] := by
  unfold Binary64.isFinite at h
  cases hview : x.view with
  | finite => simp [hview] at h
  | infinite negative =>
    cases negative <;> simp [Binary64.fixed, hview]
  | notANumber => simp [Binary64.fixed, hview]

theorem isNumeral_fixed_iff : IsNumeral (String.ofList (x.fixed places)) ↔ x.isFinite = true := by
  refine ⟨fun h => ?_, isNumeral_fixed_of_isFinite⟩
  by_contra hfinite
  have hword : String.ofList (x.fixed places) ∈ ["inf", "-inf", "NaN"] :=
    fixed_of_not_isFinite ((Bool.not_eq_true _).mp hfinite)
  simp only [List.mem_cons, List.not_mem_nil, or_false] at hword
  rcases hword with hword | hword | hword
  · exact not_isNumeral_of_mem (s := "inf") (c := 'i') (by decide) (by decide) (hword ▸ h)
  · exact not_isNumeral_of_mem (s := "-inf") (c := 'i') (by decide) (by decide) (hword ▸ h)
  · exact not_isNumeral_of_mem (s := "NaN") (c := 'N') (by decide) (by decide) (hword ▸ h)

end AssetOracle.Decimal
