import AssetOracle.Text.Utf8
import Mathlib.Data.List.Basic

/-!
# Texts and their bytes

The bytes of a text are those of its characters one after another (`encode_eq_flatMap`), and strict
reading gives the text back (`decode?_encode`). A character below 128 is one byte, and every byte of
any other character is at least 128 (`le_of_mem_utf8EncodeChar`). Bytes that are read as a text are
at least as many as the text has (`length_encode_le_of_decode?`).
-/

namespace AssetOracle.Text.Utf8

open String (utf8EncodeChar)

theorem toList_eq_data (bytes : ByteArray) : bytes.toList = bytes.data.toList := by
  have hloop : ∀ i read, ByteArray.toList.loop bytes i read =
      read.reverse ++ bytes.data.toList.drop i := by
    intro i read
    fun_induction ByteArray.toList.loop bytes i read with
    | case1 i read hi ih =>
      have hget : bytes.get! i = bytes.data.toList[i] := by
        rw [ByteArray.get!, getElem!_pos bytes.data i hi, Array.getElem_toList]
      rw [ih, List.reverse_cons, List.append_assoc, hget, List.singleton_append,
        ← List.drop_eq_getElem_cons]
    | case2 i read hi =>
      have hsize : bytes.data.toList.length ≤ i := Nat.not_lt.1 hi
      rw [List.drop_eq_nil_of_le hsize, List.append_nil]
  rw [ByteArray.toList, hloop, List.reverse_nil, List.nil_append, List.drop_zero]

theorem encode_ofList (cs : List Char) : encode (.ofList cs) = cs.flatMap utf8EncodeChar := by
  rw [encode, String.toUTF8_eq_toByteArray, String.toByteArray_ofList, List.utf8Encode,
    toList_eq_data, List.toList_data_toByteArray]

/-- What holds of all characters up to a bound holds of each that is below it. -/
theorem of_toNat_lt (P : Char → Prop) (bound : Nat) (h : ∀ n : Fin bound, P (Char.ofNat n))
    {c : Char} (hc : c.toNat < bound) : P c := by
  have hP := h ⟨c.toNat, hc⟩
  rwa [Char.ofNat_toNat] at hP

/-- The bytes of a text are those of its characters. -/
theorem encode_eq_flatMap (s : String) : encode s = s.toList.flatMap utf8EncodeChar := by
  rw [← encode_ofList, String.ofList_toList]

@[simp] theorem encode_append (a b : String) : encode (a ++ b) = encode a ++ encode b := by
  simp [encode_eq_flatMap]

@[simp] theorem encode_singleton (c : Char) : encode (.singleton c) = utf8EncodeChar c := by
  simp [encode_eq_flatMap]

/-- A character below 128 is one byte. -/
theorem utf8EncodeChar_of_lt {c : Char} (h : c.toNat < 128) :
    utf8EncodeChar c = [UInt8.ofNat c.toNat] := by
  have hle : c.val.toNat ≤ 0x7F := Nat.le_of_lt_succ h
  rw [utf8EncodeChar]
  simp only [if_pos hle]
  rfl

/-- The bytes of a character of several bytes are at least 128. -/
theorem le_of_mem_utf8EncodeChar {c : Char} (h : 128 ≤ c.toNat) {b : UInt8}
    (hb : b ∈ utf8EncodeChar c) : 128 ≤ b.toNat := by
  have hgt : ¬c.val.toNat ≤ 0x7F := Nat.not_le.2 h
  rw [utf8EncodeChar] at hb
  simp only [if_neg hgt] at hb
  split at hb
  · simp only [List.mem_cons, List.not_mem_nil, or_false] at hb
    rcases hb with rfl | rfl <;> rw [UInt8.toNat_ofNat'] <;> omega
  · split at hb
    · simp only [List.mem_cons, List.not_mem_nil, or_false] at hb
      rcases hb with rfl | rfl | rfl <;> rw [UInt8.toNat_ofNat'] <;> omega
    · simp only [List.mem_cons, List.not_mem_nil, or_false] at hb
      rcases hb with rfl | rfl | rfl | rfl <;> rw [UInt8.toNat_ofNat'] <;> omega

/-- The bytes of a text of characters below 128 are their numbers. -/
theorem encode_of_lt {s : String} (h : ∀ c ∈ s.toList, c.toNat < 128) :
    encode s = s.toList.map fun c => UInt8.ofNat c.toNat := by
  rw [encode_eq_flatMap, List.map_eq_flatMap]
  exact List.flatMap_congr fun c hc => utf8EncodeChar_of_lt (h c hc)

/-- Bytes below 128 are those of characters below 128. -/
theorem toNat_lt_of_encode {s : String} (h : ∀ b ∈ encode s, b.toNat < 128) {c : Char}
    (hc : c ∈ s.toList) : c.toNat < 128 := by
  by_contra hlarge
  have hne : utf8EncodeChar c ≠ [] := fun hnil => by
    have hlength := String.length_utf8EncodeChar c
    have hpos := c.utf8Size_pos
    rw [hnil, List.length_nil] at hlength
    omega
  obtain ⟨b, hb⟩ := List.exists_mem_of_ne_nil _ hne
  have hmem : b ∈ encode s := by
    rw [encode_eq_flatMap]
    exact List.mem_flatMap.2 ⟨c, hc, hb⟩
  have hbyte := le_of_mem_utf8EncodeChar (Nat.not_lt.1 hlarge) hb
  have hsmall := h b hmem
  omega

/-! ## Reading characters -/

variable {rest : List UInt8} {n : Nat}

theorem toNat_tail (n : Nat) : (UInt8.ofNat (n % 64 + 0x80)).toNat = n % 64 + 0x80 := by
  rw [UInt8.toNat_ofNat', Nat.mod_eq_of_lt (by omega)]

theorem follow_tail {value low high : Nat} {ranges : List (Nat × Nat)}
    (h : low ≤ n % 64 + 0x80 ∧ n % 64 + 0x80 ≤ high) :
    follow value ((low, high) :: ranges) (UInt8.ofNat (n % 64 + 0x80) :: rest) =
      follow (value * 64 + n % 64) ranges rest := by
  have hlow : (n % 64 + 0x80) % 64 = n % 64 := by omega
  rw [follow, toNat_tail, if_pos h, hlow]

theorem follow_any {value : Nat} {ranges : List (Nat × Nat)} :
    follow value ((0x80, 0xBF) :: ranges) (UInt8.ofNat (n % 64 + 0x80) :: rest) =
      follow (value * 64 + n % 64) ranges rest :=
  follow_tail (by omega)

theorem next_of_two (h : 0x80 ≤ n) (hsize : n < 0x800) :
    next (UInt8.ofNat (n / 64 % 32 + 0xC0)) (UInt8.ofNat (n % 64 + 0x80) :: rest) =
      (some (Char.ofNat n), rest) := by
  have hfirst : (UInt8.ofNat (n / 64 % 32 + 0xC0)).toNat = n / 64 + 0xC0 := by
    rw [UInt8.toNat_ofNat']
    omega
  have hlead : lead (n / 64 + 0xC0) = some (n / 64, [(0x80, 0xBF)]) := by
    have hvalue : (n / 64 + 0xC0) % 32 = n / 64 := by omega
    rw [lead, if_neg (by omega), if_pos (by omega), hvalue]
  have hn : n / 64 * 64 + n % 64 = n := by omega
  rw [next, hfirst, hlead]
  dsimp only
  rw [follow_any, follow, hn]

/-- The first byte of three tells the range of the second, which leaves out what two bytes could
    say and the halves of pairs. -/
theorem lead_of_three (h : 0x800 ≤ n) (hsize : n < 0x10000) (hpair : n < 0xD800 ∨ 0xDFFF < n) :
    ∃ low high, lead (n / 4096 + 0xE0) = some (n / 4096, [(low, high), (0x80, 0xBF)]) ∧
      low ≤ n / 64 % 64 + 0x80 ∧ n / 64 % 64 + 0x80 ≤ high := by
  by_cases hlow : n / 4096 = 0
  · exact ⟨0xA0, 0xBF, by rw [hlow]; rfl, by omega, by omega⟩
  · by_cases hhigh : n / 4096 = 13
    · exact ⟨0x80, 0x9F, by rw [hhigh]; rfl, by omega, by omega⟩
    · have hvalue : (n / 4096 + 0xE0) % 16 = n / 4096 := by omega
      refine ⟨0x80, 0xBF, ?_, by omega, by omega⟩
      rw [lead, if_neg (by omega), if_neg (by omega), if_neg (by omega), if_neg (by omega),
        if_pos (by omega), hvalue]

theorem next_of_three (h : 0x800 ≤ n) (hsize : n < 0x10000) (hpair : n < 0xD800 ∨ 0xDFFF < n) :
    next (UInt8.ofNat (n / 4096 % 16 + 0xE0))
        (UInt8.ofNat (n / 64 % 64 + 0x80) :: UInt8.ofNat (n % 64 + 0x80) :: rest) =
      (some (Char.ofNat n), rest) := by
  have hfirst : (UInt8.ofNat (n / 4096 % 16 + 0xE0)).toNat = n / 4096 + 0xE0 := by
    rw [UInt8.toNat_ofNat']
    omega
  obtain ⟨low, high, hlead, hrange⟩ := lead_of_three h hsize hpair
  have hn : (n / 4096 * 64 + n / 64 % 64) * 64 + n % 64 = n := by omega
  rw [next, hfirst, hlead]
  dsimp only
  rw [follow_tail hrange, follow_any, follow, hn]

/-- The first byte of four tells the range of the second, which leaves out what three bytes could
    say and what is no character. -/
theorem lead_of_four (h : 0x10000 ≤ n) (hsize : n < 0x110000) :
    ∃ low high, lead (n / 262144 + 0xF0) =
        some (n / 262144, [(low, high), (0x80, 0xBF), (0x80, 0xBF)]) ∧
      low ≤ n / 4096 % 64 + 0x80 ∧ n / 4096 % 64 + 0x80 ≤ high := by
  by_cases hlow : n / 262144 = 0
  · exact ⟨0x90, 0xBF, by rw [hlow]; rfl, by omega, by omega⟩
  · by_cases hhigh : n / 262144 = 4
    · exact ⟨0x80, 0x8F, by rw [hhigh]; rfl, by omega, by omega⟩
    · have hvalue : (n / 262144 + 0xF0) % 8 = n / 262144 := by omega
      refine ⟨0x80, 0xBF, ?_, by omega, by omega⟩
      rw [lead, if_neg (by omega), if_neg (by omega), if_neg (by omega), if_neg (by omega),
        if_neg (by omega), if_neg (by omega), if_pos (by omega), hvalue]

theorem next_of_four (h : 0x10000 ≤ n) (hsize : n < 0x110000) :
    next (UInt8.ofNat (n / 262144 % 8 + 0xF0))
        (UInt8.ofNat (n / 4096 % 64 + 0x80) :: UInt8.ofNat (n / 64 % 64 + 0x80) ::
          UInt8.ofNat (n % 64 + 0x80) :: rest) =
      (some (Char.ofNat n), rest) := by
  have hfirst : (UInt8.ofNat (n / 262144 % 8 + 0xF0)).toNat = n / 262144 + 0xF0 := by
    rw [UInt8.toNat_ofNat']
    omega
  obtain ⟨low, high, hlead, hrange⟩ := lead_of_four h hsize
  have hn : ((n / 262144 * 64 + n / 4096 % 64) * 64 + n / 64 % 64) * 64 + n % 64 = n := by omega
  rw [next, hfirst, hlead]
  dsimp only
  rw [follow_tail hrange, follow_any, follow_any, follow, hn]

/-- The bytes of a character are read as that character, whatever follows them. -/
theorem next_utf8EncodeChar (c : Char) (rest : List UInt8) :
    ∃ b more, utf8EncodeChar c = b :: more ∧ next b (more ++ rest) = (some c, rest) := by
  have hvalid : c.toNat < 0xD800 ∨ 0xDFFF < c.toNat ∧ c.toNat < 0x110000 := c.valid
  have hread : (some (Char.ofNat c.toNat), rest) = (some c, rest) := by
    rw [Char.ofNat_toNat]
  by_cases hone : c.toNat < 0x80
  · refine ⟨_, _, utf8EncodeChar_of_lt hone, ?_⟩
    have hbyte : (UInt8.ofNat c.toNat).toNat = c.toNat := by
      rw [UInt8.toNat_ofNat']
      omega
    rw [next, hbyte, lead, if_pos hone]
    simpa only [follow, List.nil_append] using hread
  · rw [utf8EncodeChar]
    have hval : c.val.toNat = c.toNat := rfl
    simp only [hval]
    rw [if_neg (by omega)]
    by_cases htwo : c.toNat < 0x800
    · rw [if_pos (by omega)]
      exact ⟨_, _, rfl, (next_of_two (by omega) htwo).trans hread⟩
    · rw [if_neg (by omega)]
      by_cases hthree : c.toNat < 0x10000
      · rw [if_pos (by omega)]
        exact ⟨_, _, rfl, (next_of_three (by omega) hthree (by omega)).trans hread⟩
      · rw [if_neg (by omega)]
        exact ⟨_, _, rfl, (next_of_four (by omega) (by omega)).trans hread⟩

theorem pieces_flatMap_utf8EncodeChar (cs : List Char) :
    pieces (cs.flatMap utf8EncodeChar) = cs.map some := by
  induction cs with
  | nil => simp [pieces]
  | cons c cs ih =>
    obtain ⟨b, more, hbytes, hnext⟩ := next_utf8EncodeChar c (cs.flatMap utf8EncodeChar)
    rw [List.flatMap_cons, hbytes, List.cons_append, pieces, hnext]
    simp only [ih, List.map_cons]

/-- Strict reading gives a text back. -/
theorem decode?_encode (s : String) : decode? (encode s) = some s := by
  have hmap : (s.toList.map some).mapM id = some s.toList := by
    rw [List.mapM_map]
    exact (List.mapM_pure (m := Option) (f := id)).trans (by simp)
  rw [decode?, encode_eq_flatMap, pieces_flatMap_utf8EncodeChar, hmap, Option.map_some,
    String.ofList_toList]

/-! ## The bytes behind a character -/

/-- How many values the characters of a number of bytes have, counted from zero. -/
def capacity : Nat → Nat
  | 0 => 0x80
  | 1 => 0x800
  | 2 => 0x10000
  | _ => 0x200000

theorem utf8Size_ofNat_le {value n : Nat} (h : value < capacity n) (hn : n ≤ 3) :
    (Char.ofNat value).utf8Size ≤ n + 1 := by
  by_cases hvalid : value.isValidChar
  · have hvalue : (Char.ofNat value).val.toNat = value := by
      rw [Char.ofNat, dif_pos hvalid]
      rfl
    rcases (by omega : n = 0 ∨ n = 1 ∨ n = 2 ∨ n = 3) with rfl | rfl | rfl | rfl
    all_goals
      simp only [capacity] at h
      simp only [Char.utf8Size, UInt32.le_iff_toNat_le, hvalue]
      grind
  · rw [Char.ofNat, dif_neg hvalid]
    exact Nat.succ_le_succ (Nat.zero_le n)

/-- How many values a number of bytes that follow another can have. -/
def spread : Nat → Nat
  | 0 => 1
  | n + 1 => 64 * spread n

/-- A leading byte has no value that would need more bytes than are to follow it. -/
theorem lead_lt_capacity {b value : Nat} {ranges : List (Nat × Nat)} (hb : b < 256)
    (h : lead b = some (value, ranges)) :
    ranges.length ≤ 3 ∧ (value + 1) * spread ranges.length ≤ capacity ranges.length := by
  have hall : ∀ n : Fin 256, ((lead n).all fun (value, ranges) =>
      ranges.length ≤ 3 ∧ (value + 1) * spread ranges.length ≤ capacity ranges.length) = true := by
    decide +kernel
  have hlead := hall ⟨b, hb⟩
  rw [h, Option.all_some, decide_eq_true_iff] at hlead
  exact hlead

theorem follow_eq_some {value : Nat} {ranges : List (Nat × Nat)} {bytes rest : List UInt8} {c : Char}
    (h : follow value ranges bytes = (some c, rest)) :
    bytes.length = ranges.length + rest.length ∧
      ∃ whole, c = Char.ofNat whole ∧ whole < (value + 1) * spread ranges.length := by
  induction ranges generalizing value bytes with
  | nil =>
    rw [follow] at h
    obtain ⟨hc, rfl⟩ := Prod.mk.inj h
    exact ⟨by simp, value, (Option.some.inj hc).symm, by simp [spread]⟩
  | cons range ranges ih =>
    cases bytes with
    | nil => cases h
    | cons b bytes =>
      rw [follow] at h
      split at h
      · obtain ⟨hlength, whole, hc, hwhole⟩ := ih h
        have hstep : (value * 64 + b.toNat % 64 + 1) * spread ranges.length ≤
            (value + 1) * 64 * spread ranges.length := Nat.mul_le_mul_right _ (by omega)
        refine ⟨by simp only [List.length_cons]; omega, whole, hc, ?_⟩
        rw [List.length_cons, spread, ← Nat.mul_assoc]
        omega
      · cases h

/-- A character that is read has no more bytes than were taken for it. -/
theorem next_eq_some {b : UInt8} {bytes rest : List UInt8} {c : Char}
    (h : next b bytes = (some c, rest)) : c.utf8Size + rest.length ≤ bytes.length + 1 := by
  unfold next at h
  split at h
  · cases h
  · rename_i value ranges hlead
    obtain ⟨hranges, hcapacity⟩ := lead_lt_capacity b.toNat_lt hlead
    obtain ⟨hlength, whole, rfl, hwhole⟩ := follow_eq_some h
    have hsize := utf8Size_ofNat_le (Nat.lt_of_lt_of_le hwhole hcapacity) hranges
    omega

theorem eq_map_some_of_mapM_id {read : List (Option Char)} {cs : List Char}
    (h : read.mapM id = some cs) : read = cs.map some := by
  induction read generalizing cs with
  | nil =>
    obtain rfl := Option.some.inj h
    rfl
  | cons first read ih =>
    rw [List.mapM_cons] at h
    obtain ⟨c, hc, h⟩ := Option.bind_eq_some_iff.1 h
    obtain ⟨rest, hrest, h⟩ := Option.bind_eq_some_iff.1 h
    obtain rfl := Option.some.inj h
    rw [List.map_cons, ← ih hrest, ← hc, id]

/-- What is read strictly has no more bytes than it was read from. -/
theorem length_encode_le_of_decode? {bytes : List UInt8} {s : String} (h : decode? bytes = some s) :
    (encode s).length ≤ bytes.length := by
  have hpieces : ∀ cs, pieces bytes = List.map some cs →
      (cs.flatMap utf8EncodeChar).length ≤ bytes.length := by
    clear h
    fun_induction pieces bytes with
    | case1 =>
      intro cs hcs
      obtain rfl := List.map_eq_nil_iff.1 hcs.symm
      exact Nat.le_refl _
    | case2 b rest ih =>
      intro cs hcs
      cases cs with
      | nil => cases hcs
      | cons c cs =>
        obtain ⟨hc, hrest⟩ := List.cons.inj hcs
        have hnext : c.utf8Size + (next b rest).2.length ≤ rest.length + 1 :=
          next_eq_some (Prod.ext hc rfl)
        have hmore : (cs.flatMap utf8EncodeChar).length ≤ (next b rest).2.length := ih cs hrest
        rw [List.flatMap_cons, List.length_append, String.length_utf8EncodeChar, List.length_cons]
        omega
  obtain ⟨cs, hcs, rfl⟩ := Option.map_eq_some_iff.1 h
  rw [encode_ofList]
  exact hpieces cs (eq_map_some_of_mapM_id hcs)

end AssetOracle.Text.Utf8
