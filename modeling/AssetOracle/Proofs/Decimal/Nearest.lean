import AssetOracle.Proofs.Decimal.Value
import Mathlib.Algebra.Order.Field.Rat
import Mathlib.Tactic.Linarith
import Mathlib.Tactic.Positivity

/-!
# The nearest decimals of binary numbers

A finite binary number has an exact value, which its sign bit, its exponent and its fraction say
(`Binary64.value`). Fixed notation writes the multiple of the last place that is nearest to this
value, and of two that are equally near the one with an even last digit (`isRoundedTo_fixed`); the
sign bit alone decides about a minus sign (`hasPlaces_fixed`).
-/

namespace AssetOracle.Decimal

variable {cs : List Char} {places width n num den significand : Nat} {exponent : Int} {q v : ℚ}
  {k : ℤ} {x : Binary64}

/-! ## The values of binary numbers -/

namespace Binary64

/-- The bit for the sign. -/
def signBit (x : Binary64) : Nat := (x.bits >>> 63).toNat

/-- The eleven bits for the exponent, which are all set in infinities and in what is no number. -/
def exponentBits (x : Binary64) : Nat := (x.bits >>> 52 &&& 0x7FF).toNat

/-- The fifty-two bits for the fraction. -/
def fractionBits (x : Binary64) : Nat := (x.bits &&& 0xFFFFFFFFFFFFF).toNat

/-- The value of a finite number. Without an exponent the fraction stands alone. -/
def value (x : Binary64) : ℚ :=
  (-1) ^ x.signBit *
    if x.exponentBits = 0 then (x.fractionBits / 2 ^ 52 : ℚ) * (2 : ℚ) ^ (-1022 : ℤ)
    else (1 + x.fractionBits / 2 ^ 52 : ℚ) * (2 : ℚ) ^ ((x.exponentBits : ℤ) - 1023)

theorem signBit_eq (x : Binary64) : x.signBit = x.bits.toNat / 0x8000000000000000 := by
  rw [signBit, UInt64.toNat_shiftRight, Nat.shiftRight_eq_div_pow]
  rfl

theorem exponentBits_eq (x : Binary64) :
    x.exponentBits = x.bits.toNat / 0x10000000000000 % 0x800 := by
  rw [exponentBits, UInt64.toNat_and, UInt64.toNat_shiftRight, Nat.shiftRight_eq_div_pow]
  exact Nat.and_two_pow_sub_one_eq_mod _ 11

theorem fractionBits_eq (x : Binary64) : x.fractionBits = x.bits.toNat % 0x10000000000000 := by
  rw [fractionBits, UInt64.toNat_and]
  exact Nat.and_two_pow_sub_one_eq_mod _ 52

theorem isNegative_iff : x.isNegative = true ↔ x.signBit = 1 := by
  rw [signBit_eq, isNegative, decide_eq_true_iff]

theorem signBit_lt (x : Binary64) : x.signBit < 2 := by
  rw [signBit_eq]
  have hbits := x.bits.toNat_lt
  omega

/-- The factor that a sign bit stands for. -/
theorem sign_eq (x : Binary64) : (-1 : ℚ) ^ x.signBit = if x.isNegative then -1 else 1 := by
  by_cases h : x.isNegative = true
  · rw [if_pos h, isNegative_iff.1 h, pow_one]
  · have hzero : x.signBit = 0 := by
      have hlt := x.signBit_lt
      have hne : x.signBit ≠ 1 := fun hone => h (isNegative_iff.2 hone)
      omega
    rw [if_neg h, hzero, pow_zero]

/-- A number whose exponent has not all bits set is read as one that has its value. -/
theorem exists_view (h : x.exponentBits ≠ 2047) : ∃ significand exponent,
    x.view = .finite x.isNegative significand exponent ∧
      x.value = (if x.isNegative then -1 else 1) * (significand * 2 ^ exponent) := by
  have hview : x.view = if x.exponentBits = 2047 then
      if x.fractionBits = 0 then .infinite x.isNegative else .notANumber
    else if x.exponentBits = 0 then .finite x.isNegative x.fractionBits (-1074)
    else .finite x.isNegative (x.fractionBits + 0x10000000000000) (x.exponentBits - 1075) := by
    rw [view, exponentBits_eq, fractionBits_eq]
  rw [if_neg h] at hview
  rw [hview, value, sign_eq]
  by_cases hzero : x.exponentBits = 0
  · rw [if_pos hzero, if_pos hzero]
    refine ⟨_, _, rfl, congrArg _ ?_⟩
    have hunit : (2 : ℚ) ^ (-1074 : ℤ) = 2 ^ (-1022 : ℤ) / 2 ^ 52 := by
      rw [← zpow_natCast, ← zpow_sub₀ (by norm_num)]
      rfl
    rw [hunit]
    ring
  · rw [if_neg hzero, if_neg hzero]
    refine ⟨_, _, rfl, congrArg _ ?_⟩
    have hunit : (2 : ℚ) ^ ((x.exponentBits : ℤ) - 1075) =
        2 ^ ((x.exponentBits : ℤ) - 1023) / 2 ^ 52 := by
      rw [← zpow_natCast, ← zpow_sub₀ (by norm_num)]
      congr 1
      push_cast
      ring
    rw [hunit]
    push_cast
    ring

end Binary64

/-! ## Nearest integers -/

/-- Whether no integer is nearer to a number than this one, and if another is as near, whether this
    one is even. -/
structure IsNearest (q : ℚ) (n : ℤ) : Prop where
  near : ∀ k : ℤ, |q - n| ≤ |q - k|
  even : ∀ k : ℤ, k ≠ n → |q - k| = |q - n| → Even n

theorem IsNearest.neg {n : ℤ} (h : IsNearest q n) : IsNearest (-q) (-n) := by
  have hdist (k : ℤ) : |-q - k| = |q - (-k : ℤ)| := by
    rw [← abs_neg]
    congr 1
    push_cast
    ring
  refine ⟨fun k => ?_, fun k hk hsame => ?_⟩
  · rw [hdist, hdist, neg_neg]
    exact h.near (-k)
  · rw [hdist, hdist, neg_neg] at hsame
    exact (h.even (-k) (fun hk' => hk (by rw [← hk', neg_neg])) hsame).neg

/-- Every other integer is at least half a unit away from what is at most half a unit away from an
    integer. -/
theorem half_le_abs_sub {n : ℤ} (h : |q - n| ≤ 1 / 2) (hk : k ≠ n) : 1 / 2 ≤ |q - k| := by
  have hapart : (1 : ℚ) ≤ |(k : ℚ) - n| := by
    exact_mod_cast Int.one_le_abs (sub_ne_zero.2 hk)
  have htriangle : |(k : ℚ) - n| ≤ |k - q| + |q - n| := abs_sub_le _ _ _
  rw [abs_sub_comm] at htriangle
  rw [abs_sub_comm (k : ℚ) q] at htriangle
  rw [abs_sub_comm (k : ℚ) n] at hapart
  linarith

theorem abs_div_sub_roundHalfEven_le (num : Nat) (h : 0 < den) :
    |(num / den : ℚ) - (roundHalfEven num den : ℤ)| ≤ 1 / 2 := by
  obtain ⟨hupper, hlower⟩ := roundHalfEven_near num den h
  have hden : (0 : ℚ) < den := by exact_mod_cast h
  have hupper : (2 * num : ℚ) ≤ den * (2 * roundHalfEven num den + 1) := by exact_mod_cast hupper
  have hlower : (den * (2 * roundHalfEven num den) : ℚ) ≤ 2 * num + den := by exact_mod_cast hlower
  have hnum : (num : ℚ) = num / den * den := (div_mul_cancel₀ _ hden.ne').symm
  rw [hnum] at hupper hlower
  rw [Int.cast_natCast, abs_le]
  constructor
  · refine le_of_mul_le_mul_right ?_ hden
    linarith
  · refine le_of_mul_le_mul_right ?_ hden
    linarith

/-- What lies half a unit away from the rounded quotient lies half a unit away from the floor. -/
theorem mod_of_abs_eq (h : 0 < den)
    (hhalf : |(num / den : ℚ) - (roundHalfEven num den : ℤ)| = 1 / 2) : 2 * (num % den) = den := by
  have hden : (den : ℚ) ≠ 0 := by exact_mod_cast h.ne'
  obtain ⟨floor, hfloor⟩ : ∃ floor : ℤ, (num / den : ℚ) = floor + 1 / 2 := by
    rcases eq_or_eq_neg_of_abs_eq hhalf with hhalf | hhalf
    · exact ⟨roundHalfEven num den, by linarith⟩
    · refine ⟨roundHalfEven num den - 1, ?_⟩
      push_cast at hhalf ⊢
      linarith
  have hunits : (2 * num : ℤ) = den + 2 * den * floor := by
    have hunits : (2 * num : ℚ) = den + 2 * den * floor := by
      rw [← div_mul_cancel₀ (num : ℚ) hden, hfloor]
      ring
    exact_mod_cast hunits
  have hmod : (2 * num % (2 * den) : ℤ) = den := by
    rw [hunits, Int.add_mul_emod_self_left, Int.emod_eq_of_lt (by omega) (by omega)]
  have hmod : 2 * num % (2 * den) = den := by exact_mod_cast hmod
  rwa [Nat.mul_mod_mul_left] at hmod

theorem isNearest_roundHalfEven (num : Nat) (h : 0 < den) :
    IsNearest (num / den) (roundHalfEven num den) := by
  have hnear := abs_div_sub_roundHalfEven_le num h
  refine ⟨fun k => ?_, fun k hk hsame => ?_⟩
  · by_cases hk : k = roundHalfEven num den
    · rw [hk]
    · exact hnear.trans (half_le_abs_sub hnear hk)
  · have hhalf : |(num / den : ℚ) - (roundHalfEven num den : ℤ)| = 1 / 2 :=
      le_antisymm hnear (hsame ▸ half_le_abs_sub hnear hk)
    have heven := roundHalfEven_even num den (mod_of_abs_eq h hhalf)
    exact_mod_cast Nat.even_iff.2 heven

/-- The units of fixed notation are the nearest ones. -/
theorem isNearest_nearestUnits (places significand : Nat) (exponent : Int) :
    IsNearest (significand * 2 ^ exponent * 10 ^ places)
      (nearestUnits places significand exponent) := by
  have hpower : (2 : ℚ) ^ exponent = 2 ^ exponent.toNat / 2 ^ (-exponent).toNat := by
    rw [← zpow_natCast, ← zpow_natCast, ← zpow_sub₀ (by norm_num), Int.toNat_sub_toNat_neg]
  have hquotient : (significand * 2 ^ exponent * 10 ^ places : ℚ) =
      (significand * 10 ^ places * 2 ^ exponent.toNat : Nat) / (2 ^ (-exponent).toNat : Nat) := by
    rw [hpower]
    push_cast
    ring
  rw [hquotient]
  exact isNearest_roundHalfEven _ (Nat.two_pow_pos _)

/-! ## Fixed notation -/

/-- The number that a numeral stands for. -/
def signedValueOf : List Char → ℚ
  | '-' :: cs => -valueOf cs
  | cs => valueOf cs

/-- Whether a text has a minus sign, if there is to be one, digits without a superfluous zero in
    front, a point, and so many digits behind it. -/
def HasPlaces (places : Nat) (negative : Bool) (cs : List Char) : Prop :=
  ∃ whole fraction, cs = (if negative then ['-'] else []) ++ (whole ++ '.' :: fraction) ∧
    IsDigits whole ∧ (whole = ['0'] ∨ whole.head? ≠ some '0') ∧
    IsDigits fraction ∧ fraction.length = places

/-- Whether a numeral is a number rounded to so many decimal places: it stands for a multiple of the
    last place, no other multiple is nearer, and if another one is as near, its last digit is even. -/
structure IsRoundedTo (places : Nat) (v : ℚ) (cs : List Char) : Prop where
  multiple : ∃ n : ℤ, signedValueOf cs = n / 10 ^ places
  near : ∀ k : ℤ, |v - signedValueOf cs| ≤ |v - k / 10 ^ places|
  even : ∀ k : ℤ, (k / 10 ^ places : ℚ) ≠ signedValueOf cs →
    |v - k / 10 ^ places| = |v - signedValueOf cs| →
    ∃ c ∈ ['0', '2', '4', '6', '8'], cs.getLast? = some c

theorem getLast?_digits (n : Nat) : (digits n).getLast? = some (n % 10).digitChar := by
  by_cases h : n < 10
  · rw [digits, Nat.toDigits_of_lt_base h, Nat.mod_eq_of_lt h]
    rfl
  · rw [digits, Nat.toDigits_of_base_le (by decide) (by omega), List.getLast?_append]
    rfl

theorem getLast?_padded (width n : Nat) : (padded width n).getLast? = some (n % 10).digitChar := by
  rw [padded, List.getLast?_append, getLast?_digits]
  rfl

theorem digitChar_mem_of_even (h : Even n) : (n % 10).digitChar ∈ ['0', '2', '4', '6', '8'] := by
  have hall : ∀ d : Fin 10, d.val % 2 = 0 → d.val.digitChar ∈ ['0', '2', '4', '6', '8'] := by
    decide
  have heven := Nat.even_iff.1 h
  exact hall ⟨n % 10, Nat.mod_lt _ (by decide)⟩ (by simp only; omega)

/-- The last digit of a count of units is that of their text, if there are places at all. -/
theorem getLast?_pointed (units : Nat) (h : 0 < places) :
    (pointed places units).getLast? = some (units % 10).digitChar := by
  have hten : 10 ∣ 10 ^ places := dvd_pow_self 10 h.ne'
  have hmod : units % 10 ^ places % 10 = units % 10 := Nat.mod_mod_of_dvd units hten
  have hlast := getLast?_padded places (units % 10 ^ places)
  rw [hmod] at hlast
  rw [pointed, List.getLast?_append, List.getLast?_cons]
  exact congrArg (fun last => (some (Option.getD last '.')).or _) hlast

theorem signedValueOf_of_isDigits {whole fraction : List Char} (h : IsDigits whole) :
    signedValueOf (whole ++ '.' :: fraction) = valueOf (whole ++ '.' :: fraction) := by
  obtain ⟨c, rest, rfl⟩ := List.exists_cons_of_ne_nil h.1
  have hc : c ≠ '-' := by
    rintro rfl
    exact absurd (h.2 _ List.mem_cons_self) (by decide)
  unfold signedValueOf
  split
  · rename_i heq
    exact absurd (List.cons.inj heq).1 hc
  · rfl

/-- What a finite number is written as. -/
theorem exists_fixed (places : Nat) (h : x.exponentBits ≠ 2047) : ∃ units : Nat,
    x.fixed places = (if x.isNegative then ['-'] else []) ++ pointed places units ∧
      signedValueOf (x.fixed places) = (if x.isNegative then -units else units : ℤ) / 10 ^ places ∧
      IsNearest (x.value * 10 ^ places) (if x.isNegative then -units else units : ℤ) := by
  obtain ⟨significand, exponent, hview, hvalue⟩ := Binary64.exists_view h
  have hfixed : x.fixed places = (if x.isNegative then ['-'] else []) ++
      pointed places (nearestUnits places significand exponent) := by
    rw [Binary64.fixed, hview]
  have hunits := valueOf_pointed places (nearestUnits places significand exponent)
  have hnearest := isNearest_nearestUnits places significand exponent
  refine ⟨_, hfixed, ?_, ?_⟩
  · rw [hfixed]
    by_cases hsign : x.isNegative = true
    · rw [if_pos hsign, if_pos hsign, List.singleton_append, signedValueOf, hunits]
      push_cast
      ring
    · rw [if_neg hsign, if_neg hsign, List.nil_append, pointed,
        signedValueOf_of_isDigits (isDigits_digits _), ← pointed, hunits, Int.cast_natCast]
  · rw [hvalue]
    by_cases hsign : x.isNegative = true
    · rw [if_pos hsign, if_pos hsign, neg_one_mul, neg_mul]
      exact hnearest.neg
    · rw [if_neg hsign, if_neg hsign, one_mul]
      exact hnearest

/-- The form of fixed notation. -/
theorem hasPlaces_fixed (hplaces : 0 < places) (h : x.exponentBits ≠ 2047) :
    HasPlaces places x.isNegative (x.fixed places) := by
  obtain ⟨units, hfixed, -⟩ := exists_fixed places h
  have hrest : units % 10 ^ places < 10 ^ places := Nat.mod_lt _ (Nat.pow_pos (by decide))
  exact ⟨_, _, hfixed, isDigits_digits _, leading_digits _, isDigits_padded _ _,
    length_padded hplaces hrest⟩

/-- Fixed notation is correctly rounded. -/
theorem isRoundedTo_fixed (hplaces : 0 < places) (h : x.exponentBits ≠ 2047) :
    IsRoundedTo places x.value (x.fixed places) := by
  obtain ⟨units, hfixed, hvalue, hnearest⟩ := exists_fixed places h
  generalize hn : (if x.isNegative then -units else units : ℤ) = n at hvalue hnearest
  have hunit : (0 : ℚ) < 10 ^ places := by positivity
  -- Distances in units of the last place are those between numbers, only on another scale.
  have hdist (k : ℤ) : |x.value - k / 10 ^ places| = |x.value * 10 ^ places - k| / 10 ^ places := by
    rw [← abs_of_pos hunit, ← abs_div, abs_of_pos hunit, sub_div, mul_div_cancel_right₀ _ hunit.ne']
  refine ⟨⟨n, hvalue⟩, fun k => ?_, fun k hk hsame => ?_⟩
  · rw [hvalue, hdist, hdist]
    exact div_le_div_of_nonneg_right (hnearest.near k) hunit.le
  · rw [hvalue, hdist, hdist] at hsame
    have hother : k ≠ n := by
      rintro rfl
      exact hk hvalue.symm
    have heven : Even n := hnearest.even k hother ((div_left_inj' hunit.ne').1 hsame)
    have hunits : Even units := by
      rw [← hn] at heven
      split at heven
      · exact_mod_cast even_neg.1 heven
      · exact_mod_cast heven
    refine ⟨_, digitChar_mem_of_even hunits, ?_⟩
    rw [hfixed, List.getLast?_append, getLast?_pointed units hplaces]
    rfl

end AssetOracle.Decimal
