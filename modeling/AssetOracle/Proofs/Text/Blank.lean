import Mathlib.Data.List.TakeWhile
import AssetOracle.Proofs.Text.Lowercase

/-!
# White space and lower case

Trimming cuts a text into its blank ends and what is left between them (`exists_blank_ends`), which
is never cut again; so texts that differ in their blank ends alone are the same when trimmed
(`trim_of_surrounds`). Lower case leaves blanks alone and makes none, and a blank is as good as the
end of the text to the characters beside it, so the two normal forms can be taken in either order
(`trim_lowercase`) and lower case never hides that a text was cut (`lowercase_trim_eq_iff`).
-/

namespace AssetOracle.Text

variable {c : Char} {cs front back before : List Char}

/-- Whether all characters are white space. -/
def AllBlank (cs : List Char) : Prop := ∀ c ∈ cs, isBlank c = true

instance (cs : List Char) : Decidable (AllBlank cs) := List.decidableBAll _ cs

/-- Whether a text is a word up to the case of the letters `A` to `Z`, with any white space around
    it. -/
def Says (word s : String) : Prop :=
  ∃ front middle back, AllBlank front ∧ AllBlank back ∧ s.toList = front ++ middle ++ back ∧
    middle.map lowerAscii = word.toList.map lowerAscii

/-- Whether neither end is white space. -/
def Trimmed (cs : List Char) : Prop :=
  (∀ c ∈ cs.head?, isBlank c = false) ∧ ∀ c ∈ cs.getLast?, isBlank c = false

instance (cs : List Char) : Decidable (Trimmed cs) :=
  @instDecidableAnd _ _ (Option.decidableForallMem _) (Option.decidableForallMem _)

/-! ## What trimming cuts off -/

theorem dropWhile_blank_append (h : AllBlank front) :
    (front ++ cs).dropWhile isBlank = cs.dropWhile isBlank := by
  induction front with
  | nil => rfl
  | cons c front ih =>
    obtain ⟨hc, hfront⟩ := List.forall_mem_cons.1 h
    rw [List.cons_append, List.dropWhile_cons_of_pos hc]
    exact ih hfront

theorem dropWhile_of_head (h : ∀ c ∈ cs.head?, isBlank c = false) : cs.dropWhile isBlank = cs := by
  cases cs with
  | nil => rfl
  | cons c cs =>
    have hc : isBlank c = false := h c rfl
    exact List.dropWhile_cons_of_neg (by simp [hc])

theorem trimEnd_append_blank (h : AllBlank back) : trimEnd (cs ++ back) = trimEnd cs := by
  have hreverse : AllBlank back.reverse := fun c hc => h c (List.mem_reverse.1 hc)
  simp only [trimEnd, List.reverse_append, dropWhile_blank_append hreverse]

theorem trimEnd_of_last (h : ∀ c ∈ cs.getLast?, isBlank c = false) : trimEnd cs = cs := by
  have hhead : ∀ c ∈ cs.reverse.head?, isBlank c = false := by
    rw [List.head?_reverse]
    exact h
  rw [trimEnd, dropWhile_of_head hhead, List.reverse_reverse]

theorem exists_trimEnd (cs : List Char) : ∃ back, AllBlank back ∧ cs = trimEnd cs ++ back := by
  refine ⟨(cs.reverse.takeWhile isBlank).reverse, fun c hc => ?_, ?_⟩
  · exact List.mem_takeWhile_imp (List.mem_reverse.1 hc)
  · rw [trimEnd, ← List.reverse_append, List.takeWhile_append_dropWhile, List.reverse_reverse]

theorem exists_blank_ends (cs : List Char) : ∃ front back, AllBlank front ∧ AllBlank back ∧
    cs = front ++ trimChars cs ++ back := by
  obtain ⟨back, hback, hrest⟩ := exists_trimEnd (cs.dropWhile isBlank)
  refine ⟨cs.takeWhile isBlank, back, fun c hc => List.mem_takeWhile_imp hc, hback, ?_⟩
  rw [trimChars, List.append_assoc, ← hrest, List.takeWhile_append_dropWhile]

theorem head?_trimEnd (h : ∀ c ∈ cs.head?, isBlank c = false) :
    ∀ c ∈ (trimEnd cs).head?, isBlank c = false := by
  obtain ⟨back, -, hcs⟩ := exists_trimEnd cs
  intro c hc
  apply h
  rw [hcs, List.head?_append]
  rw [Option.mem_def] at hc ⊢
  rw [hc]
  rfl

theorem trimmed_trimChars (cs : List Char) : Trimmed (trimChars cs) := by
  refine ⟨head?_trimEnd fun c hc => ?_, fun c hc => ?_⟩
  · have hhead := List.head?_dropWhile_not isBlank cs
    rw [Option.mem_def] at hc
    simpa [hc] using hhead
  · have hlast := List.head?_dropWhile_not isBlank (cs.dropWhile isBlank).reverse
    rw [trimChars, trimEnd, List.getLast?_reverse, Option.mem_def] at hc
    simpa [hc] using hlast

theorem trimChars_of_trimmed (h : Trimmed cs) : trimChars cs = cs := by
  rw [trimChars, dropWhile_of_head h.1, trimEnd_of_last h.2]

theorem trimChars_append_blank (hfront : AllBlank front) (hback : AllBlank back) :
    trimChars (front ++ cs ++ back) = trimChars cs := by
  rw [List.append_assoc, trimChars, dropWhile_blank_append hfront, trimChars]
  by_cases hcs : AllBlank cs
  · have hnil : cs.dropWhile isBlank = [] := List.dropWhile_eq_nil_iff.2 hcs
    have hall : (cs ++ back).dropWhile isBlank = [] := by
      rw [dropWhile_blank_append hcs]
      exact List.dropWhile_eq_nil_iff.2 hback
    rw [hnil, hall]
  · have hne : cs.dropWhile isBlank ≠ [] := fun hnil => hcs (List.dropWhile_eq_nil_iff.1 hnil)
    rw [List.dropWhile_append, if_neg (by simpa using hne)]
    exact trimEnd_append_blank hback

/-! ## What lower case does to blanks -/

/-- No blank has case or is passed over by it, no form of the case table is a blank, and no blank is
    in that table. -/
theorem blankRanges_apart :
    (blankRanges.all fun r => avoid r.1 r.2 caseIgnorableRanges) = true ∧
      (blankRanges.all fun r => avoid r.1 r.2 casedRanges) = true ∧
      (lowercaseRanges.all fun r => avoid r.1 r.2.1 blankRanges &&
        avoid r.2.2.2 (r.2.2.2 + (r.2.1 - r.1)) blankRanges) = true := by
  decide +kernel

theorem inRanges_eq_false_of_isBlank {ranges : List (Nat × Nat)}
    (havoid : (blankRanges.all fun r => avoid r.1 r.2 ranges) = true) (h : isBlank c = true) :
    inRanges ranges c.toNat = false := by
  obtain ⟨r, hr, hbounds⟩ := List.any_eq_true.1 h
  simp only [Bool.and_eq_true, decide_eq_true_eq] at hbounds
  exact inRanges_eq_false_of_avoid (List.all_eq_true.1 havoid r hr) hbounds.1 hbounds.2

theorem isFinal_of_isBlank (h : isBlank c = true) : IsFinal c := by
  apply isFinal_of_not_maps
  · intro hI
    rw [isBlank, hI] at h
    cases h
  · intro r hr
    have havoid := List.all_eq_true.1 blankRanges_apart.2.2 r hr
    rw [Bool.and_eq_true] at havoid
    rw [Bool.eq_false_iff, Ne, CaseRange.maps_iff]
    rintro ⟨hfirst, hlast, -⟩
    have hnot := inRanges_eq_false_of_avoid havoid.1 hfirst hlast
    rw [isBlank, hnot] at h
    cases h

theorem isBlank_lowerAscii (h : isBlank c = false) : isBlank (lowerAscii c) = false := by
  by_cases hupper : c.isUpper = true
  · have hrange := (isUpper_iff c).1 hupper
    have hletters : avoid 0x61 0x7A blankRanges = true := by decide
    rw [isBlank, toNat_lowerAscii, if_pos hupper]
    exact inRanges_eq_false_of_avoid hletters (by omega) (by omega)
  · rwa [lowerAscii_of_not_isUpper (Bool.eq_false_iff.2 hupper)]

@[simp] theorem isBlank_lowerAscii_eq (c : Char) : isBlank (lowerAscii c) = isBlank c := by
  cases h : isBlank c with
  | false => exact isBlank_lowerAscii h
  | true =>
    have hupper : c.isUpper = false := by
      rw [Bool.eq_false_iff]
      intro hupper
      have hrange := (isUpper_iff c).1 hupper
      have hletters : avoid 0x41 0x5A blankRanges = true := by decide
      have hnot := inRanges_eq_false_of_avoid hletters hrange.1 hrange.2
      rw [isBlank, hnot] at h
      cases h
    rw [lowerAscii_of_not_isUpper hupper, h]

theorem trimmed_map_lowerAscii : Trimmed (cs.map lowerAscii) ↔ Trimmed cs := by
  simp [Trimmed, List.head?_map, List.getLast?_map]

theorem isBlank_of_mem_lowerChar {d : Char} (hd : d ∈ lowerChar c) (h : isBlank c = false) :
    isBlank d = false := by
  unfold lowerChar at hd
  split at hd
  · obtain rfl := List.mem_singleton.1 hd
    exact isBlank_lowerAscii h
  · split at hd
    · rcases List.mem_cons.1 hd with rfl | hd
      · decide
      · obtain rfl := List.mem_singleton.1 hd
        decide
    · obtain rfl := List.mem_singleton.1 hd
      rw [isBlank, (toNat_ofNat_mapCode c).1]
      rcases mapCode_cases c.toNat with ⟨heq, -⟩ | ⟨r, hr, hmaps, heq⟩
      · rw [heq]
        exact h
      · have havoid := List.all_eq_true.1 blankRanges_apart.2.2 r hr
        rw [Bool.and_eq_true] at havoid
        obtain ⟨hlow, hhigh⟩ := CaseRange.form_bounds hmaps
        rw [heq]
        exact inRanges_eq_false_of_avoid havoid.2 hlow hhigh

/-- The characters that the first one becomes are there, and none of them is a blank unless it
    is one itself. -/
theorem exists_lowerAfter_cons (before : List Char) (c : Char) (rest : List Char) :
    ∃ form, lowerAfter before (c :: rest) = form ++ lowerAfter (c :: before) rest ∧ form ≠ [] ∧
      (isBlank c = false → ∀ d ∈ form, isBlank d = false) := by
  refine ⟨_, rfl, ?_, fun hc d hd => ?_⟩
  · split
    · simp
    · unfold lowerChar
      split
      · simp
      · split <;> simp
  · split at hd
    · obtain rfl := List.mem_singleton.1 hd
      split
      · decide
      · decide
    · exact isBlank_of_mem_lowerChar hd hc

/-- A blank is as good as the end of the text. -/
theorem meetsCased_append_blank (h : AllBlank back) : meetsCased (cs ++ back) = meetsCased cs := by
  induction cs with
  | nil =>
    cases back with
    | nil => rfl
    | cons b back =>
      have hb : isBlank b = true := h b (by simp)
      have hcased := inRanges_eq_false_of_isBlank blankRanges_apart.2.1 hb
      have hignorable := inRanges_eq_false_of_isBlank blankRanges_apart.1 hb
      simp [meetsCased, hignorable, hcased]
  | cons c cs ih =>
    unfold meetsCased at ih ⊢
    rw [List.cons_append, List.dropWhile_cons, List.dropWhile_cons]
    by_cases hc : inRanges caseIgnorableRanges c.toNat = true
    · rw [if_pos hc, if_pos hc]
      exact ih
    · rw [if_neg hc, if_neg hc]

theorem lowerAfter_before_blank (h : AllBlank front) :
    lowerAfter (before ++ front) cs = lowerAfter before cs := by
  induction cs generalizing before with
  | nil => rfl
  | cons c cs ih =>
    have hrest := @ih (c :: before)
    simp only [lowerAfter, meetsCased_append_blank h]
    rw [← hrest]
    rfl

theorem lowerAfter_append_blank (h : AllBlank back) :
    lowerAfter before (cs ++ back) = lowerAfter before cs ++ back := by
  induction cs generalizing before with
  | nil => exact lowerAfter_of_isFinal fun c hc => isFinal_of_isBlank (h c hc)
  | cons c cs ih =>
    simp only [List.cons_append, lowerAfter, meetsCased_append_blank h, ih, List.append_assoc]

theorem lowerAfter_blank_append (h : AllBlank front) :
    lowerAfter before (front ++ cs) = front ++ lowerAfter (front.reverse ++ before) cs := by
  induction front generalizing before with
  | nil => rfl
  | cons c front ih =>
    obtain ⟨hc, hfront⟩ := List.forall_mem_cons.1 h
    obtain ⟨hsigma, hform⟩ := isFinal_of_isBlank hc
    simp only [List.cons_append, lowerAfter, if_neg hsigma, hform, ih hfront]
    simp

/-- Lower case leaves the blank ends of a text where they are. -/
theorem lowerAfter_blank_ends (hfront : AllBlank front) (hback : AllBlank back) :
    lowerAfter [] (front ++ cs ++ back) = front ++ lowerAfter [] cs ++ back := by
  have hreverse : AllBlank front.reverse := fun c hc => hfront c (List.mem_reverse.1 hc)
  have hbefore : lowerAfter ([] ++ front.reverse) cs = lowerAfter [] cs :=
    lowerAfter_before_blank hreverse
  rw [lowerAfter_append_blank hback, lowerAfter_blank_append hfront, List.append_nil]
  rw [List.nil_append] at hbefore
  rw [hbefore]

theorem trimmed_lowerAfter (h : Trimmed cs) : Trimmed (lowerAfter before cs) := by
  constructor
  · cases cs with
    | nil => exact h.1
    | cons c rest =>
      have hc : isBlank c = false := h.1 c rfl
      obtain ⟨form, heq, hne, hform⟩ := exists_lowerAfter_cons before c rest
      intro d hd
      rw [heq, List.head?_append, Option.or_of_isSome (List.isSome_head?.2 hne)] at hd
      exact hform hc d (List.mem_of_mem_head? hd)
  · have hlast := h.2
    -- the first character may be a blank in the rest of the text, so only the end is carried along
    clear h
    induction cs generalizing before with
    | nil => exact hlast
    | cons c rest ih =>
      obtain ⟨form, heq, -, hform⟩ := exists_lowerAfter_cons before c rest
      intro d hd
      rw [heq, List.getLast?_append] at hd
      cases rest with
      | nil =>
        have hc : isBlank c = false := hlast c rfl
        have hd : d ∈ form.getLast? := by simpa [lowerAfter] using hd
        exact hform hc d (List.mem_of_getLast? hd)
      | cons e rest =>
        obtain ⟨more, hmore, hne, -⟩ := exists_lowerAfter_cons (c :: before) e rest
        have hsome : (lowerAfter (c :: before) (e :: rest)).getLast?.isSome := by
          rw [List.getLast?_isSome, hmore]
          simp [hne]
        rw [Option.or_of_isSome hsome] at hd
        exact ih (fun x hx => hlast x (by simpa using hx)) d hd

/-! ## Both together -/

@[simp] theorem toList_trim (s : String) : (trim s).toList = trimChars s.toList := by simp [trim]

@[simp] theorem toList_lowercase (s : String) : (lowercase s).toList = lowerAfter [] s.toList := by
  simp [lowercase]

theorem lowercase_eq_empty_iff {s : String} : lowercase s = "" ↔ s = "" := by
  constructor
  · intro h
    have hlist := congrArg String.toList h
    rw [toList_lowercase] at hlist
    cases hs : s.toList with
    | nil => exact String.toList_eq_nil_iff.1 hs
    | cons c rest =>
      obtain ⟨form, heq, hne, -⟩ := exists_lowerAfter_cons [] c rest
      rw [hs, heq] at hlist
      exact absurd (List.append_eq_nil_iff.1 hlist).1 hne
  · rintro rfl
    rfl

theorem trimmed_trim (s : String) : Trimmed (trim s).toList := by
  rw [toList_trim]
  exact trimmed_trimChars _

theorem trim_of_trimmed {s : String} (h : Trimmed s.toList) : trim s = s := by
  rw [trim, trimChars_of_trimmed h, String.ofList_toList]

theorem trim_trim (s : String) : trim (trim s) = trim s :=
  trim_of_trimmed (trimmed_trim s)

theorem exists_toList_lowercase (s : String) : ∃ front back, AllBlank front ∧ AllBlank back ∧
    s.toList = front ++ trimChars s.toList ++ back ∧
    (lowercase s).toList = front ++ (lowercase (trim s)).toList ++ back := by
  obtain ⟨front, back, hfront, hback, heq⟩ := exists_blank_ends s.toList
  refine ⟨front, back, hfront, hback, heq, ?_⟩
  rw [toList_lowercase, toList_lowercase, toList_trim, ← lowerAfter_blank_ends hfront hback, ← heq]

theorem trim_lowercase (s : String) : trim (lowercase s) = lowercase (trim s) := by
  obtain ⟨front, back, hfront, hback, -, heq⟩ := exists_toList_lowercase s
  have htrimmed : Trimmed (lowercase (trim s)).toList := by
    rw [toList_lowercase, toList_trim]
    exact trimmed_lowerAfter (trimmed_trimChars _)
  rw [trim, heq, trimChars_append_blank hfront hback, trimChars_of_trimmed htrimmed,
    String.ofList_toList]

theorem equalsIgnoringCase_trim_iff {word s : String} (hword : Trimmed word.toList) :
    equalsIgnoringCase (trim s) word = true ↔ Says word s := by
  rw [equalsIgnoringCase, decide_eq_true_iff, toList_trim]
  constructor
  · intro h
    obtain ⟨front, back, hfront, hback, hs⟩ := exists_blank_ends s.toList
    exact ⟨front, trimChars s.toList, back, hfront, hback, hs, h⟩
  · rintro ⟨front, middle, back, hfront, hback, hs, hmiddle⟩
    have htrimmed : Trimmed middle := by
      rw [← trimmed_map_lowerAscii, hmiddle, trimmed_map_lowerAscii]
      exact hword
    rw [hs, trimChars_append_blank hfront hback, trimChars_of_trimmed htrimmed, hmiddle]

/-- The lower-case form of a text without its blank ends is that of the text itself only if there
    are no blank ends. -/
theorem lowercase_trim_eq_iff {s : String} : lowercase (trim s) = lowercase s ↔ trim s = s := by
  constructor
  · intro h
    obtain ⟨front, back, -, -, hs, hlower⟩ := exists_toList_lowercase s
    rw [h] at hlower
    have hlength := congrArg List.length hlower
    simp only [List.length_append] at hlength
    have hfront : front = [] := List.eq_nil_of_length_eq_zero (by omega)
    have hback : back = [] := List.eq_nil_of_length_eq_zero (by omega)
    rw [hfront, hback, List.nil_append, List.append_nil] at hs
    rw [trim, ← hs, String.ofList_toList]
  · intro h
    rw [h]

/-! ## White space around a text -/

/-- Whether a text is another one with any white space around it. -/
def Surrounds (core s : String) : Prop :=
  ∃ front back, AllBlank front ∧ AllBlank back ∧ s.toList = front ++ core.toList ++ back

theorem trim_eq_empty_iff {s : String} : trim s = "" ↔ AllBlank s.toList := by
  constructor
  · intro h
    obtain ⟨front, back, hfront, hback, hs⟩ := exists_blank_ends s.toList
    rw [← toList_trim, h] at hs
    rw [hs]
    intro c hc
    rcases List.mem_append.1 hc with hc | hc
    · exact hfront c (by simpa using hc)
    · exact hback c hc
  · intro h
    have hdrop : s.toList.dropWhile isBlank = [] := List.dropWhile_eq_nil_iff.2 h
    rw [trim, trimChars, hdrop]
    rfl

theorem surrounds_trim (s : String) : Surrounds (trim s) s := by
  obtain ⟨front, back, hfront, hback, hs⟩ := exists_blank_ends s.toList
  exact ⟨front, back, hfront, hback, by rwa [toList_trim]⟩

theorem trim_of_surrounds {core s : String} (h : Surrounds core s) : trim s = trim core := by
  obtain ⟨front, back, hfront, hback, hs⟩ := h
  rw [trim, hs, trimChars_append_blank hfront hback, ← trim]

theorem exists_toList_eq_trim_append {s : String} (h : ∀ c ∈ s.toList.head?, isBlank c = false) :
    ∃ back, AllBlank back ∧ s.toList = (trim s).toList ++ back := by
  obtain ⟨back, hback, hs⟩ := exists_trimEnd s.toList
  refine ⟨back, hback, ?_⟩
  rwa [toList_trim, trimChars, dropWhile_of_head h]

end AssetOracle.Text
