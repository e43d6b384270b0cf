import AssetOracle.Proofs.Net.Split
import AssetOracle.Proofs.Text.Blank
import AssetOracle.Proofs.Text.Percent
import AssetOracle.Url.Parser

/-!
# Segments of paths

What becomes of the segments of a path when dot segments are resolved and characters are escaped.
A segment that is no dot segment and has no escape stands for itself; every other one makes the path
stand for fewer bytes than it was written with (`decodedTotal_resolveDots`).
-/

namespace AssetOracle.Url

open Net (weight total weight_pos total_cons total_nil)
open Text (lowerAscii)
open Text.Percent (Escaped encodeChars decodeBytes isHex)
open String (utf8EncodeChar)

variable {c : Char} {cs piece : List Char} {pieces : List (List Char)} {done : List String}

/-! ## Plain segments -/

/-- Whether a segment of a path stands for itself: it is no dot segment and has no escape. -/
structure Plain (piece : List Char) : Prop where
  notDot : piece ≠ ['.']
  notDoubleDot : piece ≠ ['.', '.']
  unescaped : ¬Escaped piece

theorem eq_of_lowerAscii_eq {d : Char} (h : lowerAscii c = d) (hd : d.toNat < 97) : c = d := by
  have hnat := Text.toNat_lowerAscii c
  by_cases hupper : c.isUpper = true
  · have hrange := (Text.isUpper_iff c).1 hupper
    rw [if_pos hupper, h] at hnat
    omega
  · rwa [Text.lowerAscii_of_not_isUpper (Bool.eq_false_iff.2 hupper)] at h

theorem isHex_of_lowerAscii_eq (h : lowerAscii c = 'e') : isHex c = true := by
  have hnat := Text.toNat_lowerAscii c
  have he : 'e'.toNat = 101 := by decide
  rw [h, he] at hnat
  have hc : c.toNat = 69 ∨ c.toNat = 101 := by
    split at hnat <;> omega
  rw [← Char.ofNat_toNat c]
  rcases hc with hc | hc <;> rw [hc] <;> decide

/-- A dot that is written as an escape is one. -/
theorem escaped_of_map_lowerAscii {rest : List Char}
    (h : piece.map lowerAscii = '%' :: '2' :: 'e' :: rest) : Escaped piece := by
  obtain ⟨percent, piece, rfl, hpercent, h⟩ := List.map_eq_cons_iff.1 h
  obtain ⟨two, piece, rfl, htwo, h⟩ := List.map_eq_cons_iff.1 h
  obtain ⟨last, piece, rfl, hlast, -⟩ := List.map_eq_cons_iff.1 h
  obtain rfl := eq_of_lowerAscii_eq hpercent (by decide)
  obtain rfl := eq_of_lowerAscii_eq htwo (by decide)
  refine ⟨[], _, rfl, ?_⟩
  rw [Text.Percent.startsHex, isHex_of_lowerAscii_eq hlast]
  decide

theorem Plain.isDot_eq_false (h : Plain piece) : isDot piece = false := by
  rw [isDot, Bool.or_eq_false_iff, decide_eq_false_iff_not, decide_eq_false_iff_not]
  exact ⟨h.notDot, fun hmap => h.unescaped (escaped_of_map_lowerAscii hmap)⟩

theorem Plain.isDoubleDot_eq_false (h : Plain piece) : isDoubleDot piece = false := by
  have hfirst {rest : List Char} : piece.map lowerAscii ≠ '%' :: '2' :: 'e' :: rest :=
    fun hmap => h.unescaped (escaped_of_map_lowerAscii hmap)
  have hdot {d : Char} {rest : List Char} (hmap : piece.map lowerAscii = '.' :: d :: rest) :
      ∃ d' rest', piece = '.' :: d' :: rest' ∧ lowerAscii d' = d ∧ rest'.map lowerAscii = rest := by
    obtain ⟨dot, more, rfl, heq, hmore⟩ := List.map_eq_cons_iff.1 hmap
    obtain ⟨d', rest', rfl, hd', hrest'⟩ := List.map_eq_cons_iff.1 hmore
    obtain rfl := eq_of_lowerAscii_eq heq (by decide)
    exact ⟨d', rest', rfl, hd', hrest'⟩
  simp only [isDoubleDot, Bool.or_eq_false_iff, decide_eq_false_iff_not]
  refine ⟨⟨⟨fun hmap => ?_, fun hmap => ?_⟩, hfirst⟩, hfirst⟩
  · obtain ⟨d', rest', rfl, hd', hrest'⟩ := hdot hmap
    obtain rfl := eq_of_lowerAscii_eq hd' (by decide)
    obtain rfl := List.map_eq_nil_iff.1 hrest'
    exact h.notDoubleDot rfl
  · obtain ⟨d', rest', rfl, hd', hrest'⟩ := hdot hmap
    have hescaped : Escaped (d' :: rest') :=
      escaped_of_map_lowerAscii (by rw [List.map_cons, hd', hrest'])
    exact h.unescaped (hescaped.cons '.')

theorem weight_pos_of_isDot (h : isDot piece = true) : 0 < weight piece :=
  weight_pos (by rintro rfl; cases h)

theorem weight_pos_of_isDoubleDot (h : isDoubleDot piece = true) : 0 < weight piece :=
  weight_pos (by rintro rfl; cases h)

/-! ## Escaped segments -/

/-- Neither percent signs nor digits are escaped in paths, so escapes are kept. -/
theorem decode_encodePart (cs : List Char) :
    Text.Percent.decode (encodePart inPathSet cs) = decodeBytes (cs.flatMap utf8EncodeChar) := by
  have hhex : ∀ c, isHex c = true → inPathSet c = false := by
    intro c hc
    exact Text.Utf8.of_toNat_lt (fun c => isHex c = true → inPathSet c = false) 128
      (by decide +kernel) (Text.Percent.toNat_lt_of_isHex hc) hc
  rw [Text.Percent.decode, encodePart, Text.Utf8.encode_ofList,
    Text.Percent.decodeBytes_encodeChars (by decide) hhex]

theorem encodePart_eq_empty_iff {s : String} :
    encodePart inPathSet s.toList = "" ↔ s = "" := by
  rw [encodePart, ← String.toList_inj, String.toList_ofList, String.toList_empty,
    Text.Percent.encodeChars_eq_nil_iff, String.toList_eq_nil_iff]

theorem slash_not_mem_encodePart (h : '/' ∉ cs) : '/' ∉ (encodePart inPathSet cs).toList := by
  rw [encodePart, String.toList_ofList]
  intro hmem
  rcases Text.Percent.mem_encodeChars hmem with ⟨hcs, -⟩ | heq | hhex
  · exact h hcs
  · exact absurd heq (by decide)
  · exact absurd hhex (by decide)

theorem length_decode_encodePart_le (cs : List Char) :
    (Text.Percent.decode (encodePart inPathSet cs)).length ≤ weight cs := by
  rw [decode_encodePart]
  exact Text.Percent.length_decodeBytes_le _

theorem not_escaped_of_length_decode
    (h : weight cs ≤ (Text.Percent.decode (encodePart inPathSet cs)).length) : ¬Escaped cs := by
  intro hescaped
  rw [decode_encodePart] at h
  exact absurd (Text.Percent.length_decodeBytes_lt hescaped) (Nat.not_lt.2 h)

/-- A segment that is not a dot segment and loses nothing stands for itself. -/
theorem plain_of_length_decode (hdouble : isDoubleDot piece = false) (hdot : isDot piece = false)
    (h : weight piece ≤ (Text.Percent.decode (encodePart inPathSet piece)).length) :
    Plain piece where
  notDot := by
    rintro rfl
    cases hdot
  notDoubleDot := by
    rintro rfl
    cases hdouble
  unescaped := not_escaped_of_length_decode h

/-! ## Resolving dot segments -/

/-- The number of bytes that names stand for with one more for each. -/
def decodedTotal : List String → Nat
  | [] => 0
  | name :: names => (Text.Percent.decode name).length + 1 + decodedTotal names

@[simp] theorem decodedTotal_nil : decodedTotal [] = 0 := rfl

@[simp] theorem decodedTotal_cons {name : String} {names : List String} :
    decodedTotal (name :: names) =
      (Text.Percent.decode name).length + 1 + decodedTotal names := rfl

@[simp] theorem decodedTotal_append (names more : List String) :
    decodedTotal (names ++ more) = decodedTotal names + decodedTotal more := by
  induction names with
  | nil => simp
  | cons name names ih =>
    rw [List.cons_append, decodedTotal_cons, decodedTotal_cons, ih]
    omega

@[simp] theorem decodedTotal_reverse (names : List String) :
    decodedTotal names.reverse = decodedTotal names := by
  induction names with
  | nil => rfl
  | cons name names ih =>
    rw [List.reverse_cons, decodedTotal_append, ih, decodedTotal_cons, decodedTotal_cons,
      decodedTotal_nil]
    omega

theorem decodedTotal_tail_le (names : List String) :
    decodedTotal names.tail ≤ decodedTotal names := by
  cases names with
  | nil => exact Nat.le_refl _
  | cons name names =>
    rw [List.tail_cons, decodedTotal_cons]
    omega

theorem resolveDots_of_plain (h : ∀ piece ∈ pieces, Plain piece) (done : List String) :
    resolveDots done pieces = done.reverse ++ pieces.map (encodePart inPathSet) := by
  induction pieces generalizing done with
  | nil => simp [resolveDots]
  | cons piece more ih =>
    obtain ⟨hpiece, hmore⟩ := List.forall_mem_cons.1 h
    cases more with
    | nil => simp [resolveDots, hpiece.isDot_eq_false, hpiece.isDoubleDot_eq_false]
    | cons next more =>
      rw [resolveDots, hpiece.isDot_eq_false, hpiece.isDoubleDot_eq_false, if_neg Bool.false_ne_true,
        if_neg Bool.false_ne_true, ih hmore]
      · simp
      · simp

/-- Resolving dot segments makes nothing longer, and only plain segments stay as long as they
    are. -/
theorem decodedTotal_resolveDots (hne : pieces ≠ []) (done : List String) :
    decodedTotal (resolveDots done pieces) ≤ decodedTotal done + total pieces ∧
      (decodedTotal done + total pieces ≤ decodedTotal (resolveDots done pieces) →
        ∀ piece ∈ pieces, Plain piece) := by
  induction pieces generalizing done with
  | nil => exact absurd rfl hne
  | cons piece more ih =>
    have hname := length_decode_encodePart_le piece
    have hempty : (Text.Percent.decode "").length = 0 := by
      rw [Text.Percent.decode, Text.Utf8.encode_eq_flatMap]
      rfl
    have htail := decodedTotal_tail_le done
    cases more with
    | nil =>
      rw [List.forall_mem_singleton, total_cons, total_nil, resolveDots]
      by_cases hdouble : isDoubleDot piece = true
      · have hpos := weight_pos_of_isDoubleDot hdouble
        rw [if_pos hdouble, decodedTotal_reverse, decodedTotal_cons, hempty]
        exact ⟨by omega, fun _ => by omega⟩
      · rw [if_neg hdouble]
        by_cases hdot : isDot piece = true
        · have hpos := weight_pos_of_isDot hdot
          rw [if_pos hdot, decodedTotal_reverse, decodedTotal_cons, hempty]
          exact ⟨by omega, fun _ => by omega⟩
        · rw [if_neg hdot, decodedTotal_reverse, decodedTotal_cons]
          refine ⟨by omega, fun hle => ?_⟩
          exact plain_of_length_decode (Bool.eq_false_iff.2 hdouble) (Bool.eq_false_iff.2 hdot)
            (by omega)
    | cons next more =>
      have hrest := ih (List.cons_ne_nil next more)
      rw [List.forall_mem_cons, total_cons, resolveDots]
      · by_cases hdouble : isDoubleDot piece = true
        · have hle := (hrest done.tail).1
          rw [if_pos hdouble]
          exact ⟨by omega, fun _ => by omega⟩
        · rw [if_neg hdouble]
          by_cases hdot : isDot piece = true
          · have hle := (hrest done).1
            rw [if_pos hdot]
            exact ⟨by omega, fun _ => by omega⟩
          · obtain ⟨hle, hplain⟩ := hrest (encodePart inPathSet piece :: done)
            rw [decodedTotal_cons] at hle hplain
            rw [if_neg hdot]
            refine ⟨by omega, fun hge => ⟨?_, hplain (by omega)⟩⟩
            exact plain_of_length_decode (Bool.eq_false_iff.2 hdouble) (Bool.eq_false_iff.2 hdot)
              (by omega)
      · simp

theorem resolveDots_ne_nil (hne : pieces ≠ []) (done : List String) :
    resolveDots done pieces ≠ [] := by
  induction pieces generalizing done with
  | nil => exact absurd rfl hne
  | cons piece more ih =>
    cases more with
    | nil =>
      rw [resolveDots]
      split
      · simp
      · split <;> simp
    | cons next more =>
      have hrest := ih (List.cons_ne_nil next more)
      rw [resolveDots]
      · split
        · exact hrest _
        · split <;> exact hrest _
      · simp

theorem slash_not_mem_resolveDots (hpieces : ∀ piece ∈ pieces, '/' ∉ piece)
    (hdone : ∀ name ∈ done, '/' ∉ name.toList) :
    ∀ name ∈ resolveDots done pieces, '/' ∉ name.toList := by
  have hencoded {piece : List Char} {done : List String} (hpiece : '/' ∉ piece)
      (hdone : ∀ name ∈ done, '/' ∉ name.toList) :
      ∀ name ∈ encodePart inPathSet piece :: done, '/' ∉ name.toList :=
    List.forall_mem_cons.2 ⟨slash_not_mem_encodePart hpiece, hdone⟩
  have htail {done : List String} (hdone : ∀ name ∈ done, '/' ∉ name.toList) :
      ∀ name ∈ done.tail, '/' ∉ name.toList := fun name hname =>
    hdone name (List.mem_of_mem_tail hname)
  have hempty {done : List String} (hdone : ∀ name ∈ done, '/' ∉ name.toList) :
      ∀ name ∈ "" :: done, '/' ∉ name.toList := List.forall_mem_cons.2 ⟨by decide, hdone⟩
  fun_induction resolveDots done pieces with
  | case1 done => simpa only [List.mem_reverse] using hdone
  | case2 done last hdouble => simpa only [List.mem_reverse] using hempty (htail hdone)
  | case3 done last hdouble hdot => simpa only [List.mem_reverse] using hempty hdone
  | case4 done last hdouble hdot =>
    simpa only [List.mem_reverse] using hencoded (hpieces last List.mem_cons_self) hdone
  | case5 done piece more hlast hdouble ih =>
    exact ih (List.forall_mem_cons.1 hpieces).2 (htail hdone)
  | case6 done piece more hlast hdouble hdot ih =>
    exact ih (List.forall_mem_cons.1 hpieces).2 hdone
  | case7 done piece more hlast hdouble hdot ih =>
    obtain ⟨hpiece, hmore⟩ := List.forall_mem_cons.1 hpieces
    exact ih hmore (hencoded hpiece hdone)

/-- The text of a path is its names with a slash before each. -/
theorem render_segments {names : List String} (hne : names ≠ []) :
    (Path.segments names).render = "/".intercalate ("" :: names) := by
  have hslash : "/".toList = ['/'] := by decide
  have hchars : names.flatMap (fun name => '/' :: name.toList) =
      ['/'].intercalate ([] :: names.map String.toList) := by
    induction names with
    | nil => exact absurd rfl hne
    | cons name names ih =>
      cases names with
      | nil => simp [List.intercalate]
      | cons next more =>
        have hrest := ih (List.cons_ne_nil _ _)
        rw [List.map_cons, List.intercalate_cons_cons, List.nil_append] at hrest
        rw [List.flatMap_cons, hrest, List.map_cons, List.map_cons, List.intercalate_cons_cons,
          List.intercalate_cons_cons]
        simp
  rw [← String.toList_inj, Path.render, String.toList_intercalate, hslash, List.map_cons,
    String.toList_empty, ← hchars]
  simp [String.toList_join, List.flatMap_map]

end AssetOracle.Url
