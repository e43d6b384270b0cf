import Mathlib.Data.Bool.AllAny
import AssetOracle.Proofs.Url.Path

/-!
# Texts with an origin

A text that begins with a scheme, two slashes and an authority can be read as a URL whatever stands
behind the next slash, which becomes the path (`IsOrigin.exists_parse?`).
-/

namespace AssetOracle.Url

open Text (lowerAscii)

variable {c : Char} {cs : List Char}

/-- Whether a scheme and an authority begin the URL of a service: the scheme is one of the two that
    services are asked by, and the authority can be read and ends before the path. -/
structure IsOrigin (scheme authority : List Char) : Prop where
  spelled : scheme.map lowerAscii = "http".toList ∨ scheme.map lowerAscii = "https".toList
  whole : ∀ c ∈ authority, c ∉ ['/', '\\', '?', '#', '\t', '\n', '\r']
  readable : (authority? (String.ofList (scheme.map lowerAscii)) authority).isSome

variable {scheme authority : List Char}

theorem isAlpha_of_lowerAscii (h : (lowerAscii c).isAlpha = true) : c.isAlpha = true := by
  by_cases hupper : c.isUpper = true
  · change (c.isUpper || c.isLower) = true
    rw [hupper, Bool.true_or]
  · rwa [Text.lowerAscii_of_not_isUpper (Bool.eq_false_iff.2 hupper)] at h

theorem lt_toNat_of_isAlpha (h : c.isAlpha = true) : 0x20 < c.toNat := by
  by_contra hle
  have hnot : c.isAlpha = false :=
    Text.Utf8.of_toNat_lt (fun c => c.isAlpha = false) 33 (by decide) (by omega)
  rw [h] at hnot
  cases hnot

theorem dropWhile_append_cons {p : Char → Bool} (hc : p c = false) (cs text : List Char) :
    (cs ++ c :: text).dropWhile p = cs.dropWhile p ++ c :: text := by
  induction cs with
  | nil => exact List.dropWhile_cons_of_neg (by simp [hc])
  | cons d cs ih =>
    cases hd : p d with
    | true => rw [List.cons_append, List.dropWhile_cons_of_pos hd, ih,
        List.dropWhile_cons_of_pos hd]
    | false => rw [List.cons_append, List.dropWhile_cons_of_neg (by simp [hd]),
        List.dropWhile_cons_of_neg (by simp [hd]), List.cons_append]

/-- Nothing is dropped before a slash if nothing there is a blank. -/
theorem tidy_append (hhead : ∀ c ∈ cs.head?, 0x20 < c.toNat)
    (hcs : ∀ c ∈ cs, c ∉ ['\t', '\n', '\r']) (rest : List Char) :
    tidy (cs ++ '/' :: rest) = cs ++ '/' :: tidyEnd rest := by
  have hfront : ((cs ++ '/' :: rest).dropWhile fun c => decide (c.toNat ≤ 0x20)) =
      cs ++ '/' :: rest := by
    cases cs with
    | nil => exact List.dropWhile_cons_of_neg (by decide)
    | cons c cs =>
      have hc := hhead c rfl
      exact List.dropWhile_cons_of_neg (by simpa using hc)
  have hkept : (cs.filter fun c => c ≠ '\t' ∧ c ≠ '\n' ∧ c ≠ '\r') = cs := by
    rw [List.filter_eq_self]
    intro c hc
    have hnot := hcs c hc
    simp only [List.mem_cons, not_or] at hnot
    simp [hnot]
  have hback : ((cs ++ '/' :: rest).reverse.dropWhile fun c => decide (c.toNat ≤ 0x20)).reverse =
      cs ++ '/' :: (rest.reverse.dropWhile fun c => decide (c.toNat ≤ 0x20)).reverse := by
    rw [List.reverse_append, List.reverse_cons, List.append_assoc, List.singleton_append,
      dropWhile_append_cons (by decide), List.reverse_append, List.reverse_cons,
      List.reverse_reverse, List.append_assoc, List.singleton_append]
  have hslash : ∀ more : List Char, ('/' :: more).filter (fun c => c ≠ '\t' ∧ c ≠ '\n' ∧ c ≠ '\r') =
      '/' :: more.filter fun c => c ≠ '\t' ∧ c ≠ '\n' ∧ c ≠ '\r' :=
    fun more => List.filter_cons_of_pos (by decide)
  simp only [tidy]
  rw [hfront, hback, List.filter_append, hkept, hslash]
  rfl

namespace IsOrigin

theorem isAlpha (h : IsOrigin scheme authority) : ∀ c ∈ scheme, c.isAlpha = true := by
  intro c hc
  have hletters : (scheme.map lowerAscii).all (·.isAlpha) = true := by
    rcases h.spelled with hscheme | hscheme <;> rw [hscheme] <;> decide
  exact isAlpha_of_lowerAscii (List.all_eq_true.1 hletters _ (List.mem_map_of_mem hc))

theorem exists_cons (h : IsOrigin scheme authority) : ∃ first rest, scheme = first :: rest := by
  rcases h.spelled with hscheme | hscheme
  · obtain ⟨first, rest, heq, -⟩ := List.map_eq_cons_iff.1 hscheme
    exact ⟨first, rest, heq⟩
  · obtain ⟨first, rest, heq, -⟩ := List.map_eq_cons_iff.1 hscheme
    exact ⟨first, rest, heq⟩

theorem name_eq (h : IsOrigin scheme authority) :
    String.ofList (scheme.map lowerAscii) = "http" ∨
      String.ofList (scheme.map lowerAscii) = "https" := by
  rcases h.spelled with hscheme | hscheme
  · exact .inl (by rw [hscheme, String.ofList_toList])
  · exact .inr (by rw [hscheme, String.ofList_toList])

theorem isSpecial (h : IsOrigin scheme authority) :
    Url.isSpecial (String.ofList (scheme.map lowerAscii)) = true := by
  rcases h.name_eq with hname | hname <;> rw [hname] <;> decide

/-- There is no empty authority. -/
theorem authority_ne_nil (h : IsOrigin scheme authority) : authority ≠ [] := by
  rintro rfl
  have hnone : authority? (String.ofList (scheme.map lowerAscii)) [] = none := by
    simp [authority?, Net.splitLast, splitPort, h.isSpecial]
  have hreadable := h.readable
  rw [hnone] at hreadable
  cases hreadable

theorem tidy_eq (h : IsOrigin scheme authority) (rest : List Char) :
    tidy (scheme ++ ':' :: '/' :: '/' :: (authority ++ '/' :: rest)) =
      scheme ++ ':' :: '/' :: '/' :: (authority ++ '/' :: tidyEnd rest) := by
  have hmem : ∀ c ∈ scheme ++ ':' :: '/' :: '/' :: authority, c ∉ ['\t', '\n', '\r'] := by
    intro c hc hblank
    rcases List.mem_append.1 hc with hscheme | hc
    · have hlt := lt_toNat_of_isAlpha (h.isAlpha c hscheme)
      simp only [List.mem_cons, List.not_mem_nil, or_false] at hblank
      rcases hblank with rfl | rfl | rfl <;> exact absurd hlt (by decide)
    · simp only [List.mem_cons] at hc
      rcases hc with rfl | rfl | rfl | hauthority
      · exact absurd hblank (by decide)
      · exact absurd hblank (by decide)
      · exact absurd hblank (by decide)
      · refine h.whole c hauthority ?_
        simp only [List.mem_cons, List.not_mem_nil, or_false] at hblank ⊢
        tauto
  obtain ⟨first, more, hscheme⟩ := h.exists_cons
  have hhead : ∀ c ∈ (scheme ++ ':' :: '/' :: '/' :: authority).head?, 0x20 < c.toNat := by
    intro c hc
    have hfirst : first ∈ scheme := by rw [hscheme]; exact List.mem_cons_self
    rw [hscheme] at hc
    obtain rfl := Option.some.inj hc
    exact lt_toNat_of_isAlpha (h.isAlpha _ hfirst)
  have htidy := tidy_append hhead hmem rest
  simpa only [List.append_assoc, List.cons_append] using htidy

theorem splitScheme_eq (h : IsOrigin scheme authority) (rest : List Char) :
    splitScheme (scheme ++ ':' :: rest) = some (String.ofList (scheme.map lowerAscii), rest) := by
  obtain ⟨first, letters, rfl⟩ := h.exists_cons
  obtain ⟨hfirst, hletters⟩ := List.forall_mem_cons.1 h.isAlpha
  have hkept : ∀ c ∈ letters, (c.isAlphanum || c = '+' || c = '-' || c = '.') = true := by
    intro c hc
    simp [Char.isAlphanum, hletters c hc]
  rw [List.cons_append, splitScheme, if_pos hfirst]
  simp only [List.takeWhile_append_of_pos hkept, List.dropWhile_append_of_pos hkept]
  rw [List.dropWhile_cons_of_neg (by decide), List.takeWhile_cons_of_neg (by decide),
    List.append_nil]
  rfl

theorem endsAuthority_eq_false (h : IsOrigin scheme authority) :
    ∀ c ∈ authority, endsAuthority true c = false := by
  intro c hc
  have hnot := h.whole c hc
  simp only [List.mem_cons, not_or] at hnot
  simp [endsAuthority, hnot]

theorem splitAtFirst_eq (h : IsOrigin scheme authority) (rest : List Char) :
    splitAtFirst (endsAuthority true) (authority ++ '/' :: rest) = (authority, '/' :: rest) := by
  have hkept : ∀ c ∈ authority, (!endsAuthority true c) = true := by
    intro c hc
    rw [h.endsAuthority_eq_false c hc]
    rfl
  rw [splitAtFirst, List.takeWhile_append_of_pos hkept, List.dropWhile_append_of_pos hkept,
    List.takeWhile_cons_of_neg (by decide), List.dropWhile_cons_of_neg (by decide), List.append_nil]

/-- The slashes before an authority are taken off, and no more. -/
theorem dropWhile_slashes (h : IsOrigin scheme authority) (rest : List Char) :
    (('/' :: '/' :: (authority ++ rest)).dropWhile fun c => c = '/' || c = '\\') =
      authority ++ rest := by
  cases authority with
  | nil => exact absurd rfl h.authority_ne_nil
  | cons c authority =>
    have hnot := h.whole c List.mem_cons_self
    simp only [List.mem_cons, not_or] at hnot
    rw [List.dropWhile_cons_of_pos (by decide), List.dropWhile_cons_of_pos (by decide)]
    exact List.dropWhile_cons_of_neg (by simp [hnot])

/-- A text behind the origin of a service can be read, and becomes the path of the URL. -/
theorem exists_parse? (h : IsOrigin scheme authority) (rest : List Char) :
    ∃ url, parse? (String.ofList (scheme ++ ':' :: '/' :: '/' :: (authority ++ '/' :: rest))) =
        some url ∧ (url.scheme = "http" ∨ url.scheme = "https") ∧
      url.path = .segments (segments true (pathPart rest)) := by
  obtain ⟨a, ha⟩ := Option.isSome_iff_exists.1 h.readable
  have hnotFile : String.ofList (scheme.map lowerAscii) ≠ "file" := by
    rcases h.name_eq with hname | hname <;> rw [hname] <;> decide
  have hpath : splitAtFirst endsPath ('/' :: tidyEnd rest) =
      ('/' :: pathPart rest, (splitAtFirst endsPath (tidyEnd rest)).2) := rfl
  have hread : parse? (String.ofList (scheme ++ ':' :: '/' :: '/' :: (authority ++ '/' :: rest))) =
      withAuthority? (String.ofList (scheme.map lowerAscii)) (authority ++ '/' :: tidyEnd rest) := by
    rw [parse?, String.toList_ofList, h.tidy_eq, h.splitScheme_eq]
    simp only [Option.bind_eq_bind, Option.bind_some, if_neg hnotFile, h.isSpecial, if_true,
      h.dropWhile_slashes]
  rw [hread, withAuthority?]
  simp only [h.isSpecial, h.splitAtFirst_eq, ha, hpath, Option.bind_eq_bind, Option.bind_some]
  exact ⟨_, rfl, h.name_eq, rfl⟩

end IsOrigin

end AssetOracle.Url
