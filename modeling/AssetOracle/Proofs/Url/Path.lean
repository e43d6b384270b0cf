import AssetOracle.Proofs.Url.Segments

/-!
# Paths of URLs

What becomes of texts that are put behind a host with slashes between them. The names in the path of
the URL stand for the same texts if none of them has a character that divides, ends or leaves out a
part of a URL, none is a dot segment and none has an escape (`names_of_kept`). In any other case
something is lost: the names stand for fewer bytes than the texts have, or there are more names than
texts (`kept_of_names`).
-/

namespace AssetOracle.Url

open Net (weight total)

variable {c : Char} {cs text : List Char} {texts : List (List Char)}

/-! ## What is read as a path -/

/-- A text without the blanks at its end, and without tabs and line ends. -/
def tidyEnd (cs : List Char) : List Char :=
  (cs.reverse.dropWhile fun c => c.toNat ≤ 0x20).reverse.filter fun c =>
    c ≠ '\t' ∧ c ≠ '\n' ∧ c ≠ '\r'

/-- What is read as a path of a text behind a host and a slash. -/
def pathPart (cs : List Char) : List Char := (splitAtFirst endsPath (tidyEnd cs)).1

/-- Whether a text becomes one segment of a path, which stands for it. -/
structure Kept (text : List Char) : Prop extends Plain text where
  whole : ∀ c ∈ text, c ∉ ['/', '\\', '?', '#', '\t', '\n', '\r']

theorem tidyEnd_sublist (cs : List Char) : (tidyEnd cs).Sublist cs := by
  have hsuffix := List.dropWhile_suffix (l := cs.reverse) fun c => decide (c.toNat ≤ 0x20)
  have hreverse := hsuffix.sublist.reverse
  rw [List.reverse_reverse] at hreverse
  exact List.filter_sublist.trans hreverse

theorem pathPart_sublist (cs : List Char) : (pathPart cs).Sublist cs :=
  (List.takeWhile_sublist _).trans (tidyEnd_sublist cs)

theorem getLast_of_pathPart (h : pathPart cs = cs) : ∀ c ∈ cs.getLast?, 0x20 < c.toNat := by
  intro c hc
  by_contra hblank
  have hreverse : cs.reverse = c :: cs.reverse.tail := by
    rw [List.getLast?_eq_head?_reverse] at hc
    exact List.eq_cons_of_mem_head? hc
  have hshort : (cs.reverse.dropWhile fun c => decide (c.toNat ≤ 0x20)).length < cs.length := by
    rw [hreverse, List.dropWhile_cons_of_pos (by simpa using hblank)]
    have hle := (List.dropWhile_suffix (l := cs.reverse.tail)
      fun c => decide (c.toNat ≤ 0x20)).length_le
    have hlength := congrArg List.length hreverse
    simp only [List.length_reverse, List.length_cons] at hlength
    omega
  have hle : (pathPart cs).length ≤
      (cs.reverse.dropWhile fun c => decide (c.toNat ≤ 0x20)).reverse.length :=
    ((List.takeWhile_sublist _).trans List.filter_sublist).length_le
  rw [h, List.length_reverse] at hle
  omega

theorem not_mem_of_pathPart (h : pathPart cs = cs) :
    ∀ c ∈ cs, c ∉ ['?', '#', '\t', '\n', '\r'] := by
  intro c hc
  rw [← h] at hc
  have hends := List.mem_takeWhile_imp hc
  have hinside := List.of_mem_filter ((List.takeWhile_sublist _).mem hc)
  simp only [endsPath, Bool.not_eq_true', Bool.or_eq_false_iff, decide_eq_false_iff_not] at hends
  simp only [decide_eq_true_eq] at hinside
  simp [hends, hinside]

theorem pathPart_eq_self (hlast : ∀ c ∈ cs.getLast?, 0x20 < c.toNat)
    (h : ∀ c ∈ cs, c ∉ ['?', '#', '\t', '\n', '\r']) : pathPart cs = cs := by
  have htrim : (cs.reverse.dropWhile fun c => decide (c.toNat ≤ 0x20)) = cs.reverse := by
    cases hreverse : cs.reverse with
    | nil => rfl
    | cons c more =>
      have hc : c ∈ cs.getLast? := by
        rw [List.getLast?_eq_head?_reverse, hreverse]
        rfl
      have hsize := hlast c hc
      exact List.dropWhile_cons_of_neg (by simpa using hsize)
  have htidy : tidyEnd cs = cs := by
    rw [tidyEnd, htrim, List.reverse_reverse, List.filter_eq_self]
    intro c hc
    have hnot := h c hc
    simp only [List.mem_cons, not_or] at hnot
    simp [hnot]
  rw [pathPart, htidy, splitAtFirst]
  refine List.takeWhile_eq_self_iff.2 fun c hc => ?_
  have hnot := h c hc
  simp only [List.mem_cons, not_or] at hnot
  simp [endsPath, hnot]

/-! ## Texts between slashes -/

/-- A backslash is as good as a slash. -/
def slashed (c : Char) : Char := if c = '\\' then '/' else c

theorem map_slashed (h : '\\' ∉ cs) : cs.map slashed = cs := by
  conv_rhs => rw [← List.map_id cs]
  refine List.map_congr_left fun c hc => ?_
  have hne : c ≠ '\\' := by
    rintro rfl
    exact h hc
  exact if_neg hne

theorem utf8Size_slashed (c : Char) : (slashed c).utf8Size = c.utf8Size := by
  unfold slashed
  split
  · rename_i h
    rw [h]
    decide
  · rfl

theorem segments_eq (cs : List Char) :
    segments true cs = resolveDots [] (Net.splitOn '/' (cs.map slashed)) := rfl

/-- Texts that are kept become the names of a path. -/
theorem names_of_kept (hne : texts ≠ []) (hkept : ∀ text ∈ texts, Kept text)
    (hlast : ∀ c ∈ (['/'].intercalate texts).getLast?, 0x20 < c.toNat) :
    segments true (pathPart (['/'].intercalate texts)) = texts.map (encodePart inPathSet) := by
  have hwhole : ∀ c ∈ ['/'].intercalate texts, c = '/' ∨
      c ∉ ['/', '\\', '?', '#', '\t', '\n', '\r'] := fun c hc =>
    (Net.mem_intercalate hc).imp_right fun ⟨text, htext, hmem⟩ => (hkept text htext).whole c hmem
  have hpath : pathPart (['/'].intercalate texts) = ['/'].intercalate texts := by
    refine pathPart_eq_self hlast fun c hc => ?_
    rcases hwhole c hc with rfl | hnot
    · decide
    · exact fun hmem => hnot (List.mem_cons_of_mem _ (List.mem_cons_of_mem _ hmem))
  have hback : '\\' ∉ ['/'].intercalate texts := by
    intro hmem
    rcases hwhole _ hmem with heq | hnot
    · exact absurd heq (by decide)
    · exact hnot (by decide)
  have hslash : ∀ text ∈ texts, '/' ∉ text := fun text htext hmem =>
    (hkept text htext).whole _ hmem (by decide)
  rw [segments_eq, hpath, map_slashed hback, Net.splitOn_intercalate hne hslash,
    resolveDots_of_plain fun piece hpiece => (hkept piece hpiece).toPlain]
  rfl

/-- Only texts that are kept become as many names that stand for as many bytes. -/
theorem kept_of_names (hne : texts ≠ [])
    (hlength : (segments true (pathPart (['/'].intercalate texts))).length = texts.length)
    (htotal : total texts ≤
      decodedTotal (segments true (pathPart (['/'].intercalate texts)))) :
    (∀ text ∈ texts, Kept text) ∧
      ∀ c ∈ (['/'].intercalate texts).getLast?, 0x20 < c.toNat := by
  rw [segments_eq] at hlength htotal
  have hpieces : total (Net.splitOn '/' ((pathPart (['/'].intercalate texts)).map slashed)) =
      weight (pathPart (['/'].intercalate texts)) + 1 := by
    rw [Net.total_splitOn (by decide), Net.weight_map utf8Size_slashed]
  have htexts := Net.total_eq_of_intercalate (by decide : '/'.utf8Size = 1) hne
  obtain ⟨hle, hplain⟩ := decodedTotal_resolveDots
    (Net.splitOn_ne_nil '/' ((pathPart (['/'].intercalate texts)).map slashed)) []
  rw [decodedTotal_nil, Nat.zero_add] at hle hplain
  have hpath : pathPart (['/'].intercalate texts) = ['/'].intercalate texts :=
    Net.eq_of_sublist_of_weight (pathPart_sublist _) (by omega)
  have hshort := Net.weight_le_of_sublist (pathPart_sublist (['/'].intercalate texts))
  replace hplain := hplain (by omega)
  -- There are as many pieces as texts, so no text has a slash or what stands for one.
  rw [resolveDots_of_plain hplain, hpath, Net.map_intercalate slashed rfl, List.reverse_nil,
    List.nil_append, List.length_map, Net.length_splitOn] at hlength
  rw [hpath, Net.map_intercalate slashed rfl] at hplain
  have hslash : ∀ text ∈ texts.map (·.map slashed), '/' ∉ text :=
    Net.not_mem_of_count_intercalate (by rw [hlength, List.length_map])
  rw [Net.splitOn_intercalate (by simpa using hne) hslash, List.forall_mem_map] at hplain
  rw [List.forall_mem_map] at hslash
  refine ⟨fun text htext => ?_, getLast_of_pathPart hpath⟩
  have hforward : '/' ∉ text := fun hmem =>
    hslash text htext (List.mem_map.2 ⟨'/', hmem, rfl⟩)
  have hback : '\\' ∉ text := fun hmem => hslash text htext (List.mem_map.2 ⟨'\\', hmem, rfl⟩)
  have htextPlain := hplain text htext
  rw [map_slashed hback] at htextPlain
  refine ⟨htextPlain, fun c hc hmem => ?_⟩
  rcases List.mem_cons.1 hmem with rfl | hmem
  · exact hforward hc
  · rcases List.mem_cons.1 hmem with rfl | hmem
    · exact hback hc
    · exact not_mem_of_pathPart hpath c (Net.mem_intercalate_of_mem htext hc) hmem

end AssetOracle.Url
