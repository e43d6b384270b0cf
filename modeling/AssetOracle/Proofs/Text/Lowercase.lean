import AssetOracle.Text.Lowercase

/-!
# Lower case is final

The lower-case form of a text is in lower case already (`lowercase_lowercase`), and it does not
depend on the case in which the letters `A` to `Z` are written
(`lowercase_eq_of_equalsIgnoringCase`). The first rests on a property of the case table: no form
that the table gives is itself mapped by the table. It is checked range against range, because
most forms lie outside of a range as a whole.
-/

namespace AssetOracle.Text

/-- A line of the case table: its first and last code point, its stride, the form of the first. -/
abbrev CaseRange := Nat × Nat × Nat × Nat

namespace CaseRange

/-- Whether a range maps a code point. -/
def maps (r : CaseRange) (code : Nat) : Bool :=
  (r.1.ble code).and ((code.ble r.2.1).and ((code - r.1) % r.2.2.1 == 0))

/-- The form that a range gives to a code point. -/
def form (r : CaseRange) (code : Nat) : Nat := r.2.2.2 + (code - r.1)

/-- The forms that a range gives to its code points. -/
def forms (r : CaseRange) : List Nat :=
  (List.range ((r.2.1 - r.1) / r.2.2.1 + 1)).map fun k => r.2.2.2 + k * r.2.2.1

/-- Whether some ranges map none of the given code points, which lie between `low` and `high`. -/
def leaveAlone (low high : Nat) (codes : List Nat) : List CaseRange → Bool
  | [] => true
  | r :: rest =>
    match (high.blt r.1).or (r.2.1.blt low) with
    | true => leaveAlone low high codes rest
    | false => (codes.all fun code => !r.maps code) && leaveAlone low high codes rest

/-- Whether all forms of a range are characters other than the dotted capital I. -/
def givesChars (r : CaseRange) : Bool :=
  let last := r.2.2.2 + (r.2.1 - r.1)
  (last < 0xD800 || (0xDFFF < r.2.2.2 && last < 0x110000)) && (last < 0x130 || 0x130 < r.2.2.2)

theorem maps_iff {r : CaseRange} {code : Nat} :
    r.maps code = true ↔ r.1 ≤ code ∧ code ≤ r.2.1 ∧ (code - r.1) % r.2.2.1 = 0 := by
  simp [maps]

theorem form_bounds {r : CaseRange} {code : Nat} (h : r.maps code = true) :
    r.2.2.2 ≤ r.form code ∧ r.form code ≤ r.2.2.2 + (r.2.1 - r.1) := by
  obtain ⟨hfirst, hlast, -⟩ := maps_iff.1 h
  unfold form
  omega

theorem form_mem_forms {r : CaseRange} {code : Nat} (h : r.maps code = true) :
    r.form code ∈ r.forms := by
  obtain ⟨hfirst, hlast, hstride⟩ := maps_iff.1 h
  have hdvd : r.2.2.1 ∣ code - r.1 := Nat.dvd_of_mod_eq_zero hstride
  refine List.mem_map.2 ⟨(code - r.1) / r.2.2.1, ?_, ?_⟩
  · rw [List.mem_range]
    exact Nat.lt_succ_of_le (Nat.div_le_div_right (by omega))
  · rw [Nat.div_mul_cancel hdvd]
    rfl

theorem not_maps_of_leaveAlone {low high code : Nat} {codes : List Nat} {ranges : List CaseRange}
    (h : leaveAlone low high codes ranges = true) (hcode : code ∈ codes) (hlow : low ≤ code)
    (hhigh : code ≤ high) : ∀ r ∈ ranges, r.maps code = false := by
  induction ranges with
  | nil => simp
  | cons s rest ih =>
    intro r hr
    unfold leaveAlone at h
    split at h
    · rename_i hapart
      rcases List.mem_cons.1 hr with rfl | hr
      · simp only [Bool.or_eq_true, Nat.blt_eq] at hapart
        rw [Bool.eq_false_iff, Ne, maps_iff]
        omega
      · exact ih h r hr
    · rw [Bool.and_eq_true] at h
      rcases List.mem_cons.1 hr with rfl | hr
      · simpa using List.all_eq_true.1 h.1 code hcode
      · exact ih h.2 r hr

end CaseRange

open CaseRange

/-- What is checked of the table: none of its forms is mapped by it, all of them are characters, it
    maps the letters `A` to `Z` and the capital sigma, and it maps neither of the small sigmas nor
    the dot above. -/
theorem lowercaseRanges_checked :
    (lowercaseRanges.all fun r =>
        leaveAlone r.2.2.2 (r.2.2.2 + (r.2.1 - r.1)) (forms r) lowercaseRanges) = true ∧
      (lowercaseRanges.all givesChars) = true ∧
      (0x41, 0x5A, 1, 0x61) ∈ lowercaseRanges ∧ (0x3A3, 0x3AB, 1, 0x3C3) ∈ lowercaseRanges ∧
      ∀ code ∈ [0x307, 0x3C2, 0x3C3], ∀ r ∈ lowercaseRanges, CaseRange.maps r code = false := by
  decide +kernel

theorem lowercaseRanges_leaveAlone :
    (lowercaseRanges.all fun r =>
      leaveAlone r.2.2.2 (r.2.2.2 + (r.2.1 - r.1)) (forms r) lowercaseRanges) = true :=
  lowercaseRanges_checked.1

theorem lowercaseRanges_givesChars : (lowercaseRanges.all givesChars) = true :=
  lowercaseRanges_checked.2.1

theorem not_maps_of_mem {code : Nat} (h : code ∈ [0x307, 0x3C2, 0x3C3]) :
    ∀ r ∈ lowercaseRanges, CaseRange.maps r code = false :=
  lowercaseRanges_checked.2.2.2.2 code h

/-- A code point stays as it is, or one range of the table maps it. -/
theorem mapCode_cases (code : Nat) :
    (mapCode lowercaseRanges code = code ∧ ∀ r ∈ lowercaseRanges, CaseRange.maps r code = false) ∨
      ∃ r ∈ lowercaseRanges, CaseRange.maps r code = true ∧
        mapCode lowercaseRanges code = CaseRange.form r code := by
  unfold mapCode
  split
  · rename_i first last stride formOf hfind
    refine .inr ⟨_, List.mem_of_find?_eq_some hfind, ?_, rfl⟩
    have hpred := List.find?_some hfind
    simp only [Bool.and_eq_true, decide_eq_true_eq] at hpred
    exact maps_iff.2 ⟨hpred.1.1, hpred.1.2, hpred.2⟩
  · rename_i hfind
    refine .inl ⟨rfl, fun r hr => ?_⟩
    have hpred := List.find?_eq_none.1 hfind r hr
    simp only [Bool.and_eq_true, decide_eq_true_eq] at hpred
    rw [Bool.eq_false_iff, Ne, maps_iff]
    exact fun h => hpred ⟨⟨h.1, h.2.1⟩, h.2.2⟩

theorem mapCode_eq_self {code : Nat} (h : ∀ r ∈ lowercaseRanges, CaseRange.maps r code = false) :
    mapCode lowercaseRanges code = code := by
  rcases mapCode_cases code with ⟨heq, -⟩ | ⟨r, hr, hmaps, -⟩
  · exact heq
  · exact absurd hmaps (by simp [h r hr])

theorem not_maps_mapCode (code : Nat) :
    ∀ r ∈ lowercaseRanges, CaseRange.maps r (mapCode lowercaseRanges code) = false := by
  rcases mapCode_cases code with ⟨heq, hnone⟩ | ⟨s, hs, hmaps, heq⟩
  · rwa [heq]
  · rw [heq]
    have halone := List.all_eq_true.1 lowercaseRanges_leaveAlone s hs
    exact not_maps_of_leaveAlone halone (form_mem_forms hmaps) (form_bounds hmaps).1
      (form_bounds hmaps).2

theorem toNat_ofNat_of_isValidChar {n : Nat} (h : n.isValidChar) : (Char.ofNat n).toNat = n := by
  unfold Char.ofNat
  rw [dif_pos h]
  rfl

/-- A code point that some range maps has the form of that range, which is a character. -/
theorem toNat_ofNat_mapCode (c : Char) :
    (Char.ofNat (mapCode lowercaseRanges c.toNat)).toNat = mapCode lowercaseRanges c.toNat ∧
      (c.toNat ≠ 0x130 → mapCode lowercaseRanges c.toNat ≠ 0x130) := by
  rcases mapCode_cases c.toNat with ⟨heq, -⟩ | ⟨r, hr, hmaps, heq⟩
  · rw [heq, Char.ofNat_toNat]
    exact ⟨rfl, id⟩
  · have hgives := List.all_eq_true.1 lowercaseRanges_givesChars r hr
    simp only [givesChars, Bool.and_eq_true, Bool.or_eq_true, decide_eq_true_eq] at hgives
    obtain ⟨hlow, hhigh⟩ := form_bounds hmaps
    have hvalid : (CaseRange.form r c.toNat).isValidChar := by
      unfold Nat.isValidChar
      omega
    rw [heq, toNat_ofNat_of_isValidChar hvalid]
    exact ⟨rfl, fun _ => by omega⟩

/-- Whether a character is in lower case already, wherever it stands. -/
def IsFinal (c : Char) : Prop := c.toNat ≠ 0x3A3 ∧ lowerChar c = [c]

theorem lowerAscii_of_not_isUpper {c : Char} (h : c.isUpper = false) : lowerAscii c = c := by
  simp [lowerAscii, h]

theorem isUpper_iff (c : Char) : c.isUpper = true ↔ 65 ≤ c.toNat ∧ c.toNat ≤ 90 := by
  show decide (c.val ≥ 65 ∧ c.val ≤ 90) = true ↔ _
  exact decide_eq_true_iff

theorem toNat_lowerAscii (c : Char) :
    (lowerAscii c).toNat = if c.isUpper then c.toNat + 32 else c.toNat := by
  unfold lowerAscii
  split
  · rename_i h
    have hrange := (isUpper_iff c).1 h
    exact toNat_ofNat_of_isValidChar (by unfold Nat.isValidChar; omega)
  · rfl

theorem isFinal_of_ascii {c : Char} (h : c.toNat < 128) (hupper : c.isUpper = false) :
    IsFinal c := by
  refine ⟨by omega, ?_⟩
  rw [lowerChar, if_pos h, lowerAscii_of_not_isUpper hupper]

theorem isFinal_lowerAscii {c : Char} (h : c.toNat < 128) : IsFinal (lowerAscii c) := by
  have hnat := toNat_lowerAscii c
  by_cases hc : c.isUpper = true
  · have hrange := (isUpper_iff c).1 hc
    rw [if_pos hc] at hnat
    refine isFinal_of_ascii (by omega) (Bool.eq_false_iff.2 fun hupper => ?_)
    have := (isUpper_iff _).1 hupper
    omega
  · rw [lowerAscii_of_not_isUpper (Bool.eq_false_iff.2 hc)]
    exact isFinal_of_ascii h (Bool.eq_false_iff.2 hc)

/-- The letters `A` to `Z` and the capital sigma are in the table, so no form is one of them. -/
theorem isFinal_of_not_maps {c : Char} (hI : c.toNat ≠ 0x130)
    (h : ∀ r ∈ lowercaseRanges, CaseRange.maps r c.toNat = false) : IsFinal c := by
  have hsigma : c.toNat ≠ 0x3A3 := by
    intro heq
    have := h (0x3A3, 0x3AB, 1, 0x3C3) lowercaseRanges_checked.2.2.2.1
    rw [heq] at this
    cases this
  have hupper : c.isUpper = false := by
    rw [Bool.eq_false_iff]
    intro hupper
    have := h (0x41, 0x5A, 1, 0x61) lowercaseRanges_checked.2.2.1
    rw [Bool.eq_false_iff, Ne, maps_iff] at this
    exact this ⟨((isUpper_iff c).1 hupper).1, ((isUpper_iff c).1 hupper).2, Nat.mod_one _⟩
  by_cases hascii : c.toNat < 128
  · exact isFinal_of_ascii hascii hupper
  · refine ⟨hsigma, ?_⟩
    rw [lowerChar, if_neg hascii, if_neg hI, mapCode_eq_self h, Char.ofNat_toNat]

/-- The lower-case form of a character consists of characters that are in lower case. -/
theorem isFinal_of_mem_lowerChar {c d : Char} (h : d ∈ lowerChar c) : IsFinal d := by
  unfold lowerChar at h
  split at h
  · rename_i hascii
    obtain rfl := List.mem_singleton.1 h
    exact isFinal_lowerAscii hascii
  · split at h
    · rcases List.mem_cons.1 h with rfl | h
      · exact isFinal_of_ascii (by decide) (by decide)
      · obtain rfl := List.mem_singleton.1 h
        exact isFinal_of_not_maps (by decide) (not_maps_of_mem (by decide))
    · rename_i hI
      obtain rfl := List.mem_singleton.1 h
      obtain ⟨hnat, hne⟩ := toNat_ofNat_mapCode c
      refine isFinal_of_not_maps (by rw [hnat]; exact hne hI) ?_
      rw [hnat]
      exact not_maps_mapCode c.toNat

theorem isFinal_of_mem_lowerAfter {before cs : List Char} {d : Char}
    (h : d ∈ lowerAfter before cs) : IsFinal d := by
  induction cs generalizing before with
  | nil => simp [lowerAfter] at h
  | cons c rest ih =>
    simp only [lowerAfter] at h
    rcases List.mem_append.1 h with h | h
    · split at h
      · obtain rfl := List.mem_singleton.1 h
        split
        · exact isFinal_of_not_maps (by decide) (not_maps_of_mem (by decide))
        · exact isFinal_of_not_maps (by decide) (not_maps_of_mem (by decide))
      · exact isFinal_of_mem_lowerChar h
    · exact ih h

theorem lowerAfter_of_isFinal {before cs : List Char} (h : ∀ c ∈ cs, IsFinal c) :
    lowerAfter before cs = cs := by
  induction cs generalizing before with
  | nil => rfl
  | cons c rest ih =>
    obtain ⟨hsigma, hform⟩ := h c (by simp)
    have hrest := @ih (c :: before) fun d hd => h d (List.mem_cons_of_mem _ hd)
    simp only [lowerAfter]
    rw [if_neg hsigma, hform, hrest]
    rfl

/-- The lower-case form of a text is in lower case already. -/
theorem lowercase_lowercase (s : String) : lowercase (lowercase s) = lowercase s := by
  unfold lowercase
  rw [String.toList_ofList]
  exact congrArg String.ofList (lowerAfter_of_isFinal fun _ => isFinal_of_mem_lowerAfter)

/-- The case of the letters `A` to `Z` does not matter to a set of code points. -/
def IgnoresAsciiCase (ranges : List (Nat × Nat)) : Prop :=
  ∀ c : Char, inRanges ranges (lowerAscii c).toNat = inRanges ranges c.toNat

/-- Whether no range meets the code points from `low` to `high`. -/
def avoid (low high : Nat) (ranges : List (Nat × Nat)) : Bool :=
  ranges.all fun r => (high.blt r.1).or (r.2.blt low)

theorem inRanges_eq_false_of_avoid {low high code : Nat} {ranges : List (Nat × Nat)}
    (h : avoid low high ranges = true) (hlow : low ≤ code) (hhigh : code ≤ high) :
    inRanges ranges code = false := by
  rw [inRanges, List.any_eq_false]
  intro r hr
  have hr := List.all_eq_true.1 h r hr
  simp only [Bool.or_eq_true, Nat.blt_eq] at hr
  simp only [Bool.and_eq_true, decide_eq_true_eq]
  omega

theorem inRanges_of_mem {first last code : Nat} {ranges : List (Nat × Nat)}
    (h : (first, last) ∈ ranges) (hfirst : first ≤ code) (hlast : code ≤ last) :
    inRanges ranges code = true := by
  rw [inRanges, List.any_eq_true]
  exact ⟨_, h, by simp [hfirst, hlast]⟩

theorem ignoresAsciiCase_casedRanges : IgnoresAsciiCase casedRanges := by
  intro c
  rw [toNat_lowerAscii]
  split
  · rename_i hc
    have hrange := (isUpper_iff c).1 hc
    have hupper : (0x41, 0x5A) ∈ casedRanges := by decide
    have hlower : (0x61, 0x7A) ∈ casedRanges := by decide
    rw [inRanges_of_mem hupper hrange.1 hrange.2, inRanges_of_mem hlower (by omega) (by omega)]
  · rfl

theorem ignoresAsciiCase_caseIgnorableRanges : IgnoresAsciiCase caseIgnorableRanges := by
  intro c
  rw [toNat_lowerAscii]
  split
  · rename_i hc
    have hrange := (isUpper_iff c).1 hc
    have hupper : avoid 0x41 0x5A caseIgnorableRanges = true := by decide +kernel
    have hlower : avoid 0x61 0x7A caseIgnorableRanges = true := by decide +kernel
    rw [inRanges_eq_false_of_avoid hupper hrange.1 hrange.2,
      inRanges_eq_false_of_avoid hlower (by omega) (by omega)]
  · rfl

theorem meetsCased_map_lowerAscii (cs : List Char) :
    meetsCased (cs.map lowerAscii) = meetsCased cs := by
  induction cs with
  | nil => rfl
  | cons c rest ih =>
    unfold meetsCased at ih ⊢
    rw [List.map_cons, List.dropWhile_cons, List.dropWhile_cons,
      ignoresAsciiCase_caseIgnorableRanges c]
    by_cases hc : inRanges caseIgnorableRanges c.toNat = true
    · rw [if_pos hc, if_pos hc]
      exact ih
    · rw [if_neg hc, if_neg hc]
      exact ignoresAsciiCase_casedRanges c

theorem lowerChar_lowerAscii (c : Char) : lowerChar (lowerAscii c) = lowerChar c := by
  by_cases hc : c.isUpper = true
  · have hrange := (isUpper_iff c).1 hc
    have hascii : c.toNat < 128 := by omega
    rw [(isFinal_lowerAscii hascii).2, lowerChar, if_pos hascii]
  · rw [lowerAscii_of_not_isUpper (Bool.eq_false_iff.2 hc)]

theorem toNat_lowerAscii_eq_sigma (c : Char) :
    (lowerAscii c).toNat = 0x3A3 ↔ c.toNat = 0x3A3 := by
  rw [toNat_lowerAscii]
  split
  · rename_i hc
    have := (isUpper_iff c).1 hc
    omega
  · rfl

theorem lowerAfter_map_lowerAscii (before cs : List Char) :
    lowerAfter (before.map lowerAscii) (cs.map lowerAscii) = lowerAfter before cs := by
  induction cs generalizing before with
  | nil => rfl
  | cons c rest ih =>
    simp only [List.map_cons, lowerAfter, meetsCased_map_lowerAscii, lowerChar_lowerAscii,
      toNat_lowerAscii_eq_sigma]
    rw [← ih (c :: before), List.map_cons]

/-- Texts that differ in the case of the letters `A` to `Z` only have one lower-case form. -/
theorem lowercase_eq_of_equalsIgnoringCase {s t : String} (h : equalsIgnoringCase s t = true) :
    lowercase s = lowercase t := by
  have hmap : s.toList.map lowerAscii = t.toList.map lowerAscii := of_decide_eq_true h
  have hs := lowerAfter_map_lowerAscii [] s.toList
  have ht := lowerAfter_map_lowerAscii [] t.toList
  unfold lowercase
  rw [← hs, ← ht, hmap]

end AssetOracle.Text
