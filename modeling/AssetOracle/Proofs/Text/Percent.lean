import AssetOracle.Proofs.Text.Utf8
import AssetOracle.Text.Percent

/-!
# Escapes

What replacing escapes does to the bytes of characters. A percent sign stands for itself unless two
digits follow it (`Escaped`), so a text without such a place is left as it is, and any other becomes
shorter (`length_decodeBytes_lt`). Escaping more characters does not change what a text stands for,
as long as percent signs and digits are kept (`decodeBytes_encodeChars`), and if percent signs are
escaped too, what is decoded is the text itself (`decodeBytes_encodeChars_of_escaped`).
-/

namespace AssetOracle.Text.Percent

open String (utf8EncodeChar)

variable {b : UInt8} {c : Char} {cs : List Char} {escaped : Char → Bool}

/-- Whether a character is a hexadecimal digit. -/
def isHex (c : Char) : Bool := (Hex.digit? c).isSome

/-- Whether two digits stand first. -/
def startsHex : List Char → Bool
  | high :: low :: _ => isHex high && isHex low
  | _ => false

/-- Whether there is an escape in a text. -/
def Escaped (cs : List Char) : Prop := ∃ front back, cs = front ++ '%' :: back ∧ startsHex back

/-! ## Digits -/

theorem isHex_eq_false_of_le (h : 128 ≤ c.toNat) : isHex c = false := by
  have hnot : ∀ d : Char, d.toNat < 128 → ¬c ≤ d := fun d hd hle => by
    have hval : c.toNat ≤ d.toNat := hle
    omega
  have hf := hnot 'f' (by decide)
  have hF := hnot 'F' (by decide)
  have h9 := hnot '9' (by decide)
  simp [isHex, Hex.digit?, hf, hF, h9]

theorem toNat_lt_of_isHex (h : isHex c = true) : c.toNat < 128 := by
  by_contra hle
  rw [isHex_eq_false_of_le (Nat.not_lt.1 hle)] at h
  cases h

theorem isAlphanum_of_isHex (h : isHex c = true) : c.isAlphanum = true := by
  exact Utf8.of_toNat_lt (fun c => isHex c = true → c.isAlphanum = true) 128 (by decide +kernel)
    (toNat_lt_of_isHex h) h

theorem digit?_upperDigit {n : Nat} (h : n < 16) : Hex.digit? (Hex.upperDigit n) = some n := by
  have hall : ∀ m : Fin 16, Hex.digit? (Hex.upperDigit m) = some m.val := by decide
  exact hall ⟨n, h⟩

/-- The one byte of a character below 128. -/
theorem ofNat_toNat_byte (h : c.toNat < 128) : Char.ofNat (UInt8.ofNat c.toNat).toNat = c := by
  rw [UInt8.toNat_ofNat', Nat.mod_eq_of_lt (by omega), Char.ofNat_toNat]

/-! ## Bytes that are decoded -/

theorem decodeBytes_cons_of_ne (h : b ≠ 0x25) (rest : List UInt8) :
    decodeBytes (b :: rest) = b :: decodeBytes rest := by
  rw [decodeBytes.eq_def]
  simp [h]

theorem percent_not_mem_utf8EncodeChar (h : c ≠ '%') : (0x25 : UInt8) ∉ utf8EncodeChar c := by
  intro hmem
  by_cases hc : c.toNat < 128
  · rw [Utf8.utf8EncodeChar_of_lt hc, List.mem_singleton] at hmem
    apply h
    rw [← ofNat_toNat_byte hc, ← hmem]
    decide
  · have hle := Utf8.le_of_mem_utf8EncodeChar (Nat.not_lt.1 hc) hmem
    exact absurd hle (by decide)

theorem decodeBytes_append_of_not_mem {bytes : List UInt8} (h : (0x25 : UInt8) ∉ bytes)
    (rest : List UInt8) : decodeBytes (bytes ++ rest) = bytes ++ decodeBytes rest := by
  induction bytes with
  | nil => rfl
  | cons b bytes ih =>
    rw [List.mem_cons, not_or] at h
    obtain ⟨hb, hbytes⟩ := h
    rw [List.cons_append, decodeBytes_cons_of_ne (Ne.symm hb), ih hbytes, List.cons_append]

/-- A character other than the percent sign is kept. -/
theorem decodeBytes_char (h : c ≠ '%') (rest : List UInt8) :
    decodeBytes (utf8EncodeChar c ++ rest) = utf8EncodeChar c ++ decodeBytes rest :=
  decodeBytes_append_of_not_mem (percent_not_mem_utf8EncodeChar h) rest

theorem utf8EncodeChar_percent : utf8EncodeChar '%' = [0x25] := by decide

/-- A percent sign with two digits behind it stands for a byte. -/
theorem decodeBytes_escape_chars {high low : Char} {h l : Nat} (hhigh : Hex.digit? high = some h)
    (hlow : Hex.digit? low = some l) (rest : List UInt8) :
    decodeBytes (utf8EncodeChar '%' ++ (utf8EncodeChar high ++ (utf8EncodeChar low ++ rest))) =
      UInt8.ofNat (16 * h + l) :: decodeBytes rest := by
  have hhigh' : high.toNat < 128 := toNat_lt_of_isHex (by rw [isHex, hhigh]; rfl)
  have hlow' : low.toNat < 128 := toNat_lt_of_isHex (by rw [isHex, hlow]; rfl)
  rw [utf8EncodeChar_percent, Utf8.utf8EncodeChar_of_lt hhigh', Utf8.utf8EncodeChar_of_lt hlow']
  simp only [List.singleton_append, decodeBytes, if_true, ofNat_toNat_byte hhigh',
    ofNat_toNat_byte hlow', hhigh, hlow]

/-- The escape of a byte stands for it. -/
theorem decodeBytes_escape (b : UInt8) (rest : List UInt8) :
    decodeBytes ((escape b).flatMap utf8EncodeChar ++ rest) = b :: decodeBytes rest := by
  have hsize := b.toNat_lt
  have hvalue : 16 * (b.toNat / 16) + b.toNat % 16 = b.toNat := Nat.div_add_mod _ _
  have hdecode := decodeBytes_escape_chars (digit?_upperDigit (n := b.toNat / 16) (by omega))
    (digit?_upperDigit (n := b.toNat % 16) (by omega)) rest
  rw [hvalue, UInt8.ofNat_toNat] at hdecode
  simpa [escape] using hdecode

theorem decodeBytes_escapes (bytes rest : List UInt8) :
    decodeBytes ((bytes.flatMap escape).flatMap utf8EncodeChar ++ rest) =
      bytes ++ decodeBytes rest := by
  induction bytes with
  | nil => rfl
  | cons b bytes ih =>
    rw [List.flatMap_cons, List.flatMap_append, List.append_assoc, decodeBytes_escape, ih,
      List.cons_append]

/-- A first byte below 128 is a character of its own. -/
theorem exists_cons_of_flatMap {rest : List UInt8} (h : cs.flatMap utf8EncodeChar = b :: rest)
    (hb : b.toNat < 128) :
    ∃ more, cs = Char.ofNat b.toNat :: more ∧ more.flatMap utf8EncodeChar = rest := by
  cases cs with
  | nil => cases h
  | cons c more =>
    rw [List.flatMap_cons] at h
    by_cases hc : c.toNat < 128
    · rw [Utf8.utf8EncodeChar_of_lt hc, List.singleton_append] at h
      obtain ⟨rfl, hrest⟩ := List.cons.inj h
      exact ⟨more, by rw [ofNat_toNat_byte hc], hrest⟩
    · obtain ⟨first, others, hbytes, -⟩ := Utf8.next_utf8EncodeChar c []
      have hfirst : 128 ≤ first.toNat :=
        Utf8.le_of_mem_utf8EncodeChar (Nat.not_lt.1 hc) (by rw [hbytes]; exact List.mem_cons_self)
      rw [hbytes, List.cons_append] at h
      obtain ⟨rfl, -⟩ := List.cons.inj h
      omega

theorem toNat_lt_of_isHex_byte (h : isHex (Char.ofNat b.toNat) = true) : b.toNat < 128 := by
  have hvalid : b.toNat.isValidChar := .inl (Nat.lt_trans b.toNat_lt (by decide))
  have hb : (Char.ofNat b.toNat).toNat = b.toNat := by
    rw [Char.ofNat, dif_pos hvalid]
    rfl
  rw [← hb]
  exact toNat_lt_of_isHex h

/-- A percent sign that two digits do not follow is kept. -/
theorem decodeBytes_percent_of_not_startsHex (h : startsHex cs = false) :
    decodeBytes (0x25 :: cs.flatMap utf8EncodeChar) =
      0x25 :: decodeBytes (cs.flatMap utf8EncodeChar) := by
  cases hbytes : cs.flatMap utf8EncodeChar with
  | nil => rfl
  | cons high rest =>
    cases rest with
    | nil => rfl
    | cons low more =>
      have hnot : ¬(isHex (Char.ofNat high.toNat) = true ∧ isHex (Char.ofNat low.toNat) = true) := by
        rintro ⟨hhigh, hlow⟩
        obtain ⟨tail, rfl, htail⟩ := exists_cons_of_flatMap hbytes (toNat_lt_of_isHex_byte hhigh)
        obtain ⟨tail, rfl, -⟩ := exists_cons_of_flatMap htail (toNat_lt_of_isHex_byte hlow)
        simp [startsHex, hhigh, hlow] at h
      rw [decodeBytes, if_pos rfl]
      split
      · rename_i hhigh hlow
        exact absurd ⟨by rw [isHex, hhigh]; rfl, by rw [isHex, hlow]; rfl⟩ hnot
      · rfl

/-! ## Texts with and without escapes -/

theorem startsHex_of_escaped_cons (h : Escaped (c :: cs)) :
    c = '%' ∧ startsHex cs = true ∨ Escaped cs := by
  obtain ⟨front, back, heq, hback⟩ := h
  cases front with
  | nil =>
    obtain ⟨rfl, rfl⟩ := List.cons.inj heq
    exact .inl ⟨rfl, hback⟩
  | cons d front =>
    obtain ⟨rfl, rfl⟩ := List.cons.inj heq
    exact .inr ⟨front, back, rfl, hback⟩

theorem Escaped.cons (h : Escaped cs) (c : Char) : Escaped (c :: cs) := by
  obtain ⟨front, back, rfl, hback⟩ := h
  exact ⟨c :: front, back, rfl, hback⟩

theorem not_escaped_of_not_mem (h : '%' ∉ cs) : ¬Escaped cs := by
  rintro ⟨front, back, rfl, -⟩
  exact h (by simp)

theorem exists_of_startsHex (h : startsHex cs = true) :
    ∃ high low more a b, cs = high :: low :: more ∧ Hex.digit? high = some a ∧
      Hex.digit? low = some b := by
  match cs with
  | [] => cases h
  | [_] => cases h
  | high :: low :: more =>
    rw [startsHex, Bool.and_eq_true] at h
    obtain ⟨a, ha⟩ := Option.isSome_iff_exists.1 h.1
    obtain ⟨b, hb⟩ := Option.isSome_iff_exists.1 h.2
    exact ⟨high, low, more, a, b, rfl, ha, hb⟩

/-- A text without escapes is left as it is. -/
theorem decodeBytes_of_not_escaped (h : ¬Escaped cs) :
    decodeBytes (cs.flatMap utf8EncodeChar) = cs.flatMap utf8EncodeChar := by
  induction cs with
  | nil => rfl
  | cons c cs ih =>
    have hrest := ih fun hescaped => h (hescaped.cons c)
    rw [List.flatMap_cons]
    by_cases hc : c = '%'
    · subst hc
      have hstarts : startsHex cs = false :=
        Bool.eq_false_iff.2 fun hstarts => h ⟨[], cs, rfl, hstarts⟩
      rw [utf8EncodeChar_percent, List.singleton_append,
        decodeBytes_percent_of_not_startsHex hstarts, hrest]
    · rw [decodeBytes_char hc, hrest]

theorem length_decodeBytes_le (bytes : List UInt8) : (decodeBytes bytes).length ≤ bytes.length := by
  fun_induction decodeBytes bytes with
  | case1 => exact Nat.le_refl _
  | case2 high low more h l hh hl ih => simp only [List.length_cons]; omega
  | case3 high low more hnone ih => simp only [List.length_cons] at ih ⊢; omega
  | case4 short hshort ih => simp only [List.length_cons]; omega
  | case5 b rest hb ih => simp only [List.length_cons]; omega

/-- A text with an escape becomes shorter. -/
theorem length_decodeBytes_lt (h : Escaped cs) :
    (decodeBytes (cs.flatMap utf8EncodeChar)).length < (cs.flatMap utf8EncodeChar).length := by
  induction cs with
  | nil =>
    obtain ⟨front, back, heq, -⟩ := h
    cases front <;> cases heq
  | cons c cs ih =>
    rw [List.flatMap_cons]
    by_cases hstarts : c = '%' ∧ startsHex cs = true
    · obtain ⟨rfl, hstarts⟩ := hstarts
      obtain ⟨high, low, more, a, b, rfl, ha, hb⟩ := exists_of_startsHex hstarts
      have hrest := length_decodeBytes_le (more.flatMap utf8EncodeChar)
      have hhigh := high.utf8Size_pos
      have hlow := low.utf8Size_pos
      rw [List.flatMap_cons, List.flatMap_cons, decodeBytes_escape_chars ha hb]
      simp only [List.length_cons, List.length_append, String.length_utf8EncodeChar]
      omega
    · have hrest := ih ((startsHex_of_escaped_cons h).resolve_left hstarts)
      by_cases hc : c = '%'
      · subst hc
        have hnot : startsHex cs = false := Bool.eq_false_iff.2 fun hyes => hstarts ⟨rfl, hyes⟩
        rw [utf8EncodeChar_percent, List.singleton_append, decodeBytes_percent_of_not_startsHex hnot]
        simp only [List.length_cons]
        omega
      · rw [decodeBytes_char hc]
        simp only [List.length_append]
        omega

/-! ## Escaping -/

theorem encodeChars_cons (escaped : Char → Bool) (c : Char) (cs : List Char) :
    encodeChars escaped (c :: cs) = encodeChars escaped [c] ++ encodeChars escaped cs := by
  simp [encodeChars]

theorem encodeChars_of_kept (hsize : c.toNat < 128) (h : escaped c = false) :
    encodeChars escaped [c] = [c] := by
  simp [encodeChars, hsize, h]

theorem encodeChars_of_escaped (h : c.toNat < 128 → escaped c = true) :
    encodeChars escaped [c] = (utf8EncodeChar c).flatMap escape := by
  have hnot : ¬(c.toNat < 128 ∧ escaped c = false) := by
    rintro ⟨hsize, hkept⟩
    rw [h hsize] at hkept
    cases hkept
  simp [encodeChars, hnot]

/-- A character is kept or escaped. -/
theorem encodeChars_singleton (escaped : Char → Bool) (c : Char) :
    c.toNat < 128 ∧ escaped c = false ∧ encodeChars escaped [c] = [c] ∨
      (c.toNat < 128 → escaped c = true) ∧
        encodeChars escaped [c] = (utf8EncodeChar c).flatMap escape := by
  by_cases h : c.toNat < 128 ∧ escaped c = false
  · exact .inl ⟨h.1, h.2, encodeChars_of_kept h.1 h.2⟩
  · have hescaped : c.toNat < 128 → escaped c = true := by simpa using h
    exact .inr ⟨hescaped, encodeChars_of_escaped hescaped⟩

theorem encodeChars_eq_nil_iff : encodeChars escaped cs = [] ↔ cs = [] := by
  cases cs with
  | nil => exact ⟨fun _ => rfl, fun _ => rfl⟩
  | cons c cs =>
    have hne : encodeChars escaped [c] ≠ [] := by
      rcases encodeChars_singleton escaped c with ⟨-, -, heq⟩ | ⟨-, heq⟩
      · rw [heq]
        exact List.cons_ne_nil _ _
      · obtain ⟨b, more, hbytes, -⟩ := Utf8.next_utf8EncodeChar c []
        rw [heq, hbytes]
        exact List.cons_ne_nil _ _
    rw [encodeChars_cons, List.append_eq_nil_iff]
    exact ⟨fun h => absurd h.1 hne, fun h => absurd h (List.cons_ne_nil _ _)⟩

/-- A character stands for itself after escaping, unless it is a percent sign that is kept. -/
theorem decodeBytes_encodeChar (h : c = '%' → escaped c = true) (rest : List UInt8) :
    decodeBytes ((encodeChars escaped [c]).flatMap utf8EncodeChar ++ rest) =
      utf8EncodeChar c ++ decodeBytes rest := by
  rcases encodeChars_singleton escaped c with ⟨-, hkept, heq⟩ | ⟨-, heq⟩
  · have hc : c ≠ '%' := by
      intro hc
      rw [h hc] at hkept
      cases hkept
    rw [heq, List.flatMap_singleton]
    exact decodeBytes_char hc _
  · rw [heq]
    exact decodeBytes_escapes _ _

/-- If percent signs are escaped, what is decoded is the text itself. -/
theorem decodeBytes_encodeChars_of_escaped (h : escaped '%' = true) (cs : List Char) :
    decodeBytes ((encodeChars escaped cs).flatMap utf8EncodeChar) = cs.flatMap utf8EncodeChar := by
  induction cs with
  | nil => rfl
  | cons c cs ih =>
    rw [encodeChars_cons, List.flatMap_append, decodeBytes_encodeChar (fun hc => hc ▸ h), ih,
      List.flatMap_cons]

theorem mem_escape (h : c ∈ escape b) : c = '%' ∨ isHex c = true := by
  have hdigit {n : Nat} (hn : n < 16) : isHex (Hex.upperDigit n) = true := by
    rw [isHex, digit?_upperDigit hn]
    rfl
  have hsize := b.toNat_lt
  rw [escape, List.mem_cons, List.mem_cons, List.mem_singleton] at h
  rcases h with rfl | rfl | rfl
  · exact .inl rfl
  · exact .inr (hdigit (by omega))
  · exact .inr (hdigit (by omega))

/-- After escaping there are only characters that are kept, percent signs and digits. -/
theorem mem_encodeChars (h : c ∈ encodeChars escaped cs) :
    (c ∈ cs ∧ escaped c = false) ∨ c = '%' ∨ isHex c = true := by
  induction cs with
  | nil => cases h
  | cons d cs ih =>
    rw [encodeChars_cons] at h
    rcases List.mem_append.1 h with h | h
    · rcases encodeChars_singleton escaped d with ⟨-, hkept, heq⟩ | ⟨-, heq⟩
      · rw [heq, List.mem_singleton] at h
        subst h
        exact .inl ⟨List.mem_cons_self, hkept⟩
      · rw [heq] at h
        obtain ⟨b, -, hb⟩ := List.mem_flatMap.1 h
        exact .inr (mem_escape hb)
    · exact (ih h).imp_left fun ⟨hmem, hkept⟩ => ⟨List.mem_cons_of_mem _ hmem, hkept⟩

/-- What stands first is a digit after escaping if and only if it is one before. -/
theorem exists_encodeChars_cons (h : ∀ c, isHex c = true → escaped c = false) (c : Char)
    (cs : List Char) :
    ∃ first rest, encodeChars escaped (c :: cs) = first :: rest ∧ isHex first = isHex c ∧
      (isHex c = true → first = c ∧ rest = encodeChars escaped cs) := by
  rw [encodeChars_cons]
  rcases encodeChars_singleton escaped c with ⟨-, -, heq⟩ | ⟨hescaped, heq⟩
  · rw [heq]
    exact ⟨c, _, rfl, rfl, fun _ => ⟨rfl, rfl⟩⟩
  · have hhex : isHex c = false := by
      rw [Bool.eq_false_iff]
      intro hhex
      rw [h c hhex] at hescaped
      cases hescaped (toNat_lt_of_isHex hhex)
    obtain ⟨b, more, hbytes, -⟩ := Utf8.next_utf8EncodeChar c []
    rw [heq, hbytes, hhex]
    exact ⟨'%', _, rfl, by decide, fun hyes => by cases hyes⟩

theorem startsHex_encodeChars (h : ∀ c, isHex c = true → escaped c = false) (cs : List Char) :
    startsHex (encodeChars escaped cs) = startsHex cs := by
  match cs with
  | [] => rfl
  | [c] =>
    obtain ⟨first, rest, heq, hfirst, hrest⟩ := exists_encodeChars_cons h c []
    rw [heq]
    cases hc : isHex c with
    | true =>
      rw [(hrest hc).2]
      rfl
    | false =>
      rw [hc] at hfirst
      cases rest <;> simp [startsHex, hfirst]
  | c :: d :: more =>
    obtain ⟨first, rest, heq, hfirst, hrest⟩ := exists_encodeChars_cons h c (d :: more)
    rw [heq, startsHex]
    cases hc : isHex c with
    | true =>
      obtain ⟨second, others, hsecond, hhex, -⟩ := exists_encodeChars_cons h d more
      rw [(hrest hc).2, hsecond, startsHex, hfirst, hhex, hc]
    | false =>
      rw [hc] at hfirst
      cases rest <;> simp [startsHex, hfirst]

/-- If percent signs and digits are kept, a text stands for the same after escaping. By induction on
    the text, in which an escape is one step. -/
theorem decodeBytes_encodeChars (hpercent : escaped '%' = false)
    (hhex : ∀ c, isHex c = true → escaped c = false) :
    ∀ cs, decodeBytes ((encodeChars escaped cs).flatMap utf8EncodeChar) =
      decodeBytes (cs.flatMap utf8EncodeChar)
  | [] => rfl
  | c :: cs => by
    have hrest := decodeBytes_encodeChars hpercent hhex cs
    have hkeep : encodeChars escaped ['%'] = ['%'] := encodeChars_of_kept (by decide) hpercent
    rw [encodeChars_cons, List.flatMap_append, List.flatMap_cons]
    by_cases hc : c = '%'
    · subst hc
      rw [hkeep, List.flatMap_singleton]
      cases hstarts : startsHex cs with
      | true =>
        obtain ⟨high, low, more, a, b, rfl, ha, hb⟩ := exists_of_startsHex hstarts
        have hmore := decodeBytes_encodeChars hpercent hhex more
        have hhigh : isHex high = true := by rw [isHex, ha]; rfl
        have hlow : isHex low = true := by rw [isHex, hb]; rfl
        rw [encodeChars_cons, encodeChars_cons _ low,
          encodeChars_of_kept (toNat_lt_of_isHex hhigh) (hhex high hhigh),
          encodeChars_of_kept (toNat_lt_of_isHex hlow) (hhex low hlow)]
        simp only [List.singleton_append, List.flatMap_cons]
        rw [decodeBytes_escape_chars ha hb, decodeBytes_escape_chars ha hb, hmore]
      | false =>
        have hnot : startsHex (encodeChars escaped cs) = false := by
          rw [startsHex_encodeChars hhex, hstarts]
        rw [utf8EncodeChar_percent, List.singleton_append, List.singleton_append,
          decodeBytes_percent_of_not_startsHex hstarts, decodeBytes_percent_of_not_startsHex hnot,
          hrest]
    · rw [decodeBytes_char hc, decodeBytes_encodeChar (fun hyes => absurd hyes hc), hrest]

end AssetOracle.Text.Percent
