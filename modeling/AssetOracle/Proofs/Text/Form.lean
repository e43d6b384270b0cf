import AssetOracle.Proofs.Http.Target
import AssetOracle.Proofs.Text.Percent
import AssetOracle.Text.Form

/-!
# Queries that are read back

Every list of pairs has a query that is read as that list (`pairs_encode`): in each part all
characters but letters and digits are escaped, so that no part holds a sign that divides a query.
-/

namespace AssetOracle.Text.Form

open Percent (encodeChars)
open String (utf8EncodeChar)

/-- A part of a pair, with escapes for all characters but letters and digits. -/
def part (s : String) : List Char := encodeChars (fun c => !c.isAlphanum) s.toList

/-- A pair as it stands in a query. -/
def pairChars (p : String × String) : List Char := part p.1 ++ '=' :: part p.2

/-- The query of a list of pairs. -/
def encode (pairs : List (String × String)) : String :=
  String.ofList (List.intercalate ['&'] (pairs.map pairChars))

/-! ## One part -/

theorem not_mem_part {c : Char} (h : c.isAlphanum = false) (hpercent : c ≠ '%') (s : String) :
    c ∉ part s := by
  intro hmem
  rcases Percent.mem_encodeChars hmem with ⟨-, hkept⟩ | hc | hhex
  · simp [h] at hkept
  · exact hpercent hc
  · rw [Percent.isAlphanum_of_isHex hhex] at h
    cases h

/-- A part is read as the text that it was made of. -/
theorem plain_part (s : String) : plain (part s) = s := by
  have hplus : '+' ∉ part s := not_mem_part (by decide) (by decide) s
  have hmap : (part s).map (fun c => if c = '+' then ' ' else c) = part s := by
    conv_rhs => rw [← List.map_id (part s)]
    refine List.map_congr_left fun c hc => ?_
    have hne : c ≠ '+' := fun heq => hplus (heq ▸ hc)
    rw [if_neg hne, id]
  rw [plain, hmap, Percent.decode, Utf8.encode_ofList, part,
    Percent.decodeBytes_encodeChars_of_escaped (by decide), Utf8.decodeLossy,
    Utf8.pieces_flatMap_utf8EncodeChar, List.map_map]
  simp [Function.comp_def]

/-- A pair is read as the pair that it was made of: the first `=` divides it. -/
theorem pair_pairChars (p : String × String) : pair (pairChars p) = p := by
  have hname : ∀ c ∈ part p.1, decide (c ≠ '=') = true := by
    intro c hc
    have hne : c ≠ '=' := fun heq => not_mem_part (by decide) (by decide) p.1 (heq ▸ hc)
    exact decide_eq_true hne
  have htake : (pairChars p).takeWhile (· ≠ '=') = part p.1 := by
    rw [pairChars, List.takeWhile_append_of_pos hname, List.takeWhile_cons_of_neg (by decide),
      List.append_nil]
  have hdrop : (pairChars p).dropWhile (· ≠ '=') = '=' :: part p.2 := by
    rw [pairChars, List.dropWhile_append_of_pos hname, List.dropWhile_cons_of_neg (by decide)]
  rw [pair, htake, hdrop, List.drop_succ_cons, List.drop_zero, plain_part, plain_part]

/-! ## Many parts -/

theorem pieces_eq_splitOn (cs : List Char) : pieces cs = Net.splitOn '&' cs := by
  induction cs with
  | nil => rfl
  | cons c rest ih =>
    cases hrest : Net.splitOn '&' rest <;> simp [pieces, Net.splitOn, ih, hrest]

/-- Every list of pairs has a query that is read as that list. -/
theorem pairs_encode (pairs : List (String × String)) : Form.pairs (encode pairs) = pairs := by
  rw [Form.pairs, encode, String.toList_ofList, pieces_eq_splitOn]
  by_cases hnil : pairs = []
  · subst hnil
    rfl
  · have hpieces : ∀ cs ∈ pairs.map pairChars, '&' ∉ cs := by
      intro cs hcs
      obtain ⟨p, -, rfl⟩ := List.mem_map.1 hcs
      have hpart := not_mem_part (c := '&') (by decide) (by decide)
      simp [pairChars, hpart]
    rw [Net.splitOn_intercalate (by simpa using hnil) hpieces, List.filter_eq_self.2, List.map_map]
    · conv_rhs => rw [← List.map_id pairs]
      exact List.map_congr_left fun p _ => pair_pairChars p
    · intro cs hcs
      obtain ⟨p, -, rfl⟩ := List.mem_map.1 hcs
      simp [pairChars]

end AssetOracle.Text.Form
