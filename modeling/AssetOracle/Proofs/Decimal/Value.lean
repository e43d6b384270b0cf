import AssetOracle.Proofs.Decimal.Numeral
import Mathlib.Algebra.Field.Rat
import Mathlib.Data.List.DropRight
import Mathlib.Data.Nat.Cast.Field
import Mathlib.Tactic.FieldSimp
import Mathlib.Tactic.Ring

/-!
# What numerals stand for

The digits before the point of a numeral count ones, those after it tenths, hundredths and so on
(`valueOf`). Both notations of a count of small units stand for exactly that count
(`valueOf_pointed`, `valueOf_scaled`), and the one that drops zeros is canonical
(`isCanonical_scaled`).
-/

namespace AssetOracle.Decimal

variable {cs whole fraction : List Char} {acc n places units width : Nat}

/-- The part of one that the digits after a point stand for. -/
def fractionOf (cs : List Char) : ℚ := Nat.ofDigitChars 10 cs 0 / 10 ^ cs.length

/-- The number that a numeral without a sign stands for. -/
def valueOf (cs : List Char) : ℚ :=
  Nat.ofDigitChars 10 (cs.takeWhile (· ≠ '.')) 0 + fractionOf ((cs.dropWhile (· ≠ '.')).drop 1)

/-- Whether a numeral without a sign has no superfluous zero: none in front unless it is the only
    digit before the point, and none at the end of a fraction. -/
def IsCanonical (cs : List Char) : Prop :=
  ∃ whole, IsDigits whole ∧ (whole = ['0'] ∨ whole.head? ≠ some '0') ∧
    (cs = whole ∨
      ∃ fraction, IsDigits fraction ∧ fraction.getLast? ≠ some '0' ∧ cs = whole ++ '.' :: fraction)

/-! ## Digits -/

theorem foldlM_digits_eq_some_iff :
    cs.foldlM (fun acc c => if c.isDigit then some (10 * acc + (c.toNat - 48)) else none) acc =
        some n ↔ (∀ c ∈ cs, c.isDigit = true) ∧ Nat.ofDigitChars 10 cs acc = n := by
  induction cs generalizing acc with
  | nil => simp
  | cons c cs ih =>
    rw [List.foldlM_cons, List.forall_mem_cons, Nat.ofDigitChars_cons]
    by_cases hc : c.isDigit = true
    · simp only [hc, if_true, true_and, Option.bind_eq_bind, Option.bind_some]
      exact ih
    · simp [hc]

/-- Digits are read as the number that they stand for, and nothing else is read as a number. -/
theorem ofDigits?_eq_some_iff :
    ofDigits? cs = some n ↔ IsDigits cs ∧ Nat.ofDigitChars 10 cs 0 = n := by
  unfold ofDigits? IsDigits
  cases cs with
  | nil => simp
  | cons c cs =>
    rw [List.isEmpty_cons, if_neg Bool.false_ne_true, foldlM_digits_eq_some_iff]
    simp

theorem ofDigitChars_padded (width n : Nat) : Nat.ofDigitChars 10 (padded width n) 0 = n := by
  rw [padded, Nat.ofDigitChars_append, Nat.ofDigitChars_replicate_zero, Nat.mul_zero]
  exact Nat.ofDigitChars_ten_toDigits

theorem length_padded (hwidth : 0 < width) (h : n < 10 ^ width) :
    (padded width n).length = width := by
  have hdigits : (digits n).length ≤ width :=
    (Nat.length_toDigits_le_iff (by decide) hwidth).2 h
  rw [padded, List.length_append, List.length_replicate]
  omega

theorem leading_digits (n : Nat) : digits n = ['0'] ∨ (digits n).head? ≠ some '0' := by
  by_cases h : n = 0
  · rw [h]
    exact .inl rfl
  · exact .inr (head?_digits_ne_zero h)

/-! ## Fractions -/

theorem fractionOf_padded (h : n < 10 ^ places) :
    fractionOf (padded places n) = n / 10 ^ places := by
  rw [fractionOf, ofDigitChars_padded]
  cases n with
  -- Zero has a digit even where there are no places, so its length says nothing.
  | zero => simp
  | succ n =>
    have hplaces : 0 < places := by
      refine Nat.pos_of_ne_zero fun hzero => ?_
      rw [hzero] at h
      omega
    rw [length_padded hplaces h]

theorem fractionOf_append_zeros (n : Nat) :
    fractionOf (cs ++ List.replicate n '0') = fractionOf cs := by
  rw [fractionOf, fractionOf, Nat.ofDigitChars_append, Nat.ofDigitChars_replicate_zero,
    List.length_append, List.length_replicate, pow_add]
  push_cast
  field_simp

theorem dropZeros_append_zeros (cs : List Char) :
    ∃ n, dropZeros cs ++ List.replicate n '0' = cs := by
  have hzeros : ∀ c ∈ cs.rtakeWhile (· = '0'), c = '0' := by
    intro c hc
    have hzero : decide (c = '0') = true := List.mem_rtakeWhile_imp (p := fun c => c = '0') hc
    exact of_decide_eq_true hzero
  refine ⟨(cs.rtakeWhile (· = '0')).length, ?_⟩
  rw [← List.eq_replicate_of_mem hzeros]
  exact List.rdropWhile_append_rtakeWhile

theorem fractionOf_dropZeros (cs : List Char) : fractionOf (dropZeros cs) = fractionOf cs := by
  obtain ⟨n, hn⟩ := dropZeros_append_zeros cs
  calc fractionOf (dropZeros cs)
      = fractionOf (dropZeros cs ++ List.replicate n '0') := (fractionOf_append_zeros n).symm
    _ = fractionOf cs := by rw [hn]

theorem getLast?_dropZeros (cs : List Char) : (dropZeros cs).getLast? ≠ some '0' := by
  intro h
  obtain ⟨hne, hlast⟩ := List.mem_getLast?_eq_getLast h
  exact List.rdropWhile_last_not (· = '0') cs hne (decide_eq_true hlast.symm)

/-! ## Numerals -/

theorem point_not_mem (h : IsDigits cs) : '.' ∉ cs :=
  fun hmem => absurd (h.2 _ hmem) (by decide)

theorem ne_point (h : IsDigits cs) : ∀ c ∈ cs, decide (c ≠ '.') = true := by
  intro c hc
  apply decide_eq_true
  rintro rfl
  exact point_not_mem h hc

theorem valueOf_of_isDigits (h : IsDigits cs) : valueOf cs = Nat.ofDigitChars 10 cs 0 := by
  rw [valueOf, List.takeWhile_eq_self_iff.2 (ne_point h), List.dropWhile_eq_nil_iff.2 (ne_point h)]
  simp [fractionOf]

theorem valueOf_append_point (h : IsDigits whole) :
    valueOf (whole ++ '.' :: fraction) = Nat.ofDigitChars 10 whole 0 + fractionOf fraction := by
  rw [valueOf, List.takeWhile_append_of_pos (ne_point h), List.dropWhile_append_of_pos (ne_point h)]
  simp

/-- A count of units taken apart into ones and what is left. -/
theorem div_add_mod_units (places units : Nat) :
    ((units / 10 ^ places : Nat) : ℚ) + ((units % 10 ^ places : Nat) : ℚ) / 10 ^ places =
      units / 10 ^ places := by
  have hunits : (10 ^ places : ℚ) * (units / 10 ^ places : Nat) + (units % 10 ^ places : Nat) =
      units := by
    exact_mod_cast Nat.div_add_mod units (10 ^ places)
  rw [← hunits]
  field_simp

theorem valueOf_pointed (places units : Nat) :
    valueOf (pointed places units) = units / 10 ^ places := by
  have hrest : units % 10 ^ places < 10 ^ places := Nat.mod_lt _ (Nat.pow_pos (by decide))
  rw [pointed, valueOf_append_point (isDigits_digits _)]
  refine Eq.trans ?_ (div_add_mod_units places units)
  exact congrArg₂ _ (congrArg _ Nat.ofDigitChars_ten_toDigits) (fractionOf_padded hrest)

theorem valueOf_scaled (places units : Nat) :
    valueOf (scaled places units) = units / 10 ^ places := by
  -- Both texts have the same whole part, and dropping zeros does not change the fraction.
  refine Eq.trans ?_ (valueOf_pointed places units)
  rw [pointed, valueOf_append_point (isDigits_digits _)]
  by_cases h : 10 ^ places ∣ units
  · have hrest : fractionOf (padded places (units % 10 ^ places)) = 0 := by
      rw [Nat.mod_eq_zero_of_dvd h, fractionOf_padded (Nat.pow_pos (by decide)), Nat.cast_zero,
        zero_div]
    rw [scaled_of_dvd h, valueOf_of_isDigits (isDigits_digits _)]
    exact (add_eq_left.2 hrest).symm
  · rw [scaled_of_not_dvd h, valueOf_append_point (isDigits_digits _), fractionOf_dropZeros]
    rfl

theorem isCanonical_scaled (places units : Nat) : IsCanonical (scaled places units) := by
  refine ⟨_, isDigits_digits (units / 10 ^ places), leading_digits _, ?_⟩
  by_cases h : 10 ^ places ∣ units
  · exact .inl (scaled_of_dvd h)
  · exact .inr ⟨_, isDigits_fraction h, getLast?_dropZeros _, scaled_of_not_dvd h⟩

theorem point_mem_scaled_iff : '.' ∈ scaled places units ↔ ¬10 ^ places ∣ units := by
  by_cases h : 10 ^ places ∣ units
  · rw [scaled_of_dvd h]
    exact iff_of_false (point_not_mem (isDigits_digits _)) (not_not_intro h)
  · rw [scaled_of_not_dvd h]
    exact iff_of_true (List.mem_append_right _ List.mem_cons_self) h

/-- Different counts of units have different texts, since these stand for different numbers. -/
theorem scaled_injective (places : Nat) : Function.Injective (scaled places) := by
  intro a b h
  have hvalue : (a / 10 ^ places : ℚ) = b / 10 ^ places := by
    rw [← valueOf_scaled, h, valueOf_scaled]
  have hunit : (10 ^ places : ℚ) ≠ 0 := pow_ne_zero _ (by norm_num)
  exact Nat.cast_injective ((div_left_inj' hunit).1 hvalue)

end AssetOracle.Decimal
