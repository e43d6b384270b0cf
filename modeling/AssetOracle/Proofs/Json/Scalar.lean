import AssetOracle.Json.Printer
import AssetOracle.Json.Reader
import AssetOracle.Proofs.Text.Utf8

/-!
# Texts and numbers that are read back

A JSON string is read as the text that it was printed for (`text_textBytes`), and a natural number
of sixty-four bits as the number (`number_repr`), if what follows it does not continue it.
-/

namespace AssetOracle.Json.Reader

open String (utf8EncodeChar)
open Text.Utf8

variable {acc bytes rest : List UInt8} {b : UInt8} {c : Char} {n : Nat}

/-! ## Texts -/

/-- Bytes that stand for themselves in a text. -/
def Plain (b : UInt8) : Prop := 0x20 ≤ b.toNat ∧ b ≠ 0x22 ∧ b ≠ 0x5C

theorem text_cons_of_plain (h : Plain b) :
    text ⟨acc, none, none⟩ (b :: rest) = text ⟨b :: acc, none, none⟩ rest := by
  obtain ⟨hlow, hquote, hslash⟩ := h
  have hge : ¬b < 0x20 := by
    rw [UInt8.lt_iff_toNat_lt]
    exact Nat.not_lt.2 hlow
  rw [text]
  · rw [if_neg hge]
    rfl
  all_goals simp_all

theorem text_append_of_plain (h : ∀ b ∈ bytes, Plain b) :
    text ⟨acc, none, none⟩ (bytes ++ rest) = text ⟨bytes.reverse ++ acc, none, none⟩ rest := by
  induction bytes generalizing acc with
  | nil => rfl
  | cons b bytes ih =>
    obtain ⟨hb, hbytes⟩ := List.forall_mem_cons.1 h
    rw [List.cons_append, text_cons_of_plain hb, ih hbytes, List.reverse_cons, List.append_assoc,
      List.singleton_append]

theorem plain_of_mem_utf8EncodeChar (hlow : 0x20 ≤ c.toNat) (hquote : c ≠ '"') (hslash : c ≠ '\\')
    (hb : b ∈ utf8EncodeChar c) : Plain b := by
  by_cases hone : c.toNat < 128
  · rw [utf8EncodeChar_of_lt hone, List.mem_singleton] at hb
    have hnat : b.toNat = c.toNat := by
      rw [hb, UInt8.toNat_ofNat']
      omega
    refine ⟨hnat ▸ hlow, fun h => hquote ?_, fun h => hslash ?_⟩
    · exact Char.toNat_inj.1 (hnat.symm.trans (congrArg UInt8.toNat h))
    · exact Char.toNat_inj.1 (hnat.symm.trans (congrArg UInt8.toNat h))
  · have hhigh := le_of_mem_utf8EncodeChar (Nat.not_lt.1 hone) hb
    refine ⟨by omega, ?_, ?_⟩
    · rintro rfl
      exact absurd hhigh (by decide)
    · rintro rfl
      exact absurd hhigh (by decide)

theorem fourDigits_control (h : n < 32) :
    fourDigits 0x30 0x30 (UInt8.ofNat (Text.Hex.digit (n / 16)).toNat)
      (UInt8.ofNat (Text.Hex.digit (n % 16)).toNat) = some n := by
  have hall : ∀ n < 32, fourDigits 0x30 0x30 (UInt8.ofNat (Text.Hex.digit (n / 16)).toNat)
      (UInt8.ofNat (Text.Hex.digit (n % 16)).toNat) = some n := by decide
  exact hall n h

theorem digit_lt (h : n < 32) :
    (Text.Hex.digit (n / 16)).toNat < 128 ∧ (Text.Hex.digit (n % 16)).toNat < 128 := by
  have hall : ∀ n < 32, (Text.Hex.digit (n / 16)).toNat < 128 ∧
      (Text.Hex.digit (n % 16)).toNat < 128 := by decide
  exact hall n h

theorem pushUnit_of_lt (h : c.toNat < 0xD800) :
    Partial.pushUnit ⟨acc, none, none⟩ c.toNat =
      ⟨(utf8EncodeChar c).reverse ++ acc, none, none⟩ := by
  have htrailing : decide (0xDC00 ≤ c.toNat) = false := decide_eq_false (by omega)
  have hleading : decide (0xD800 ≤ c.toNat) = false := decide_eq_false (by omega)
  simp [Partial.pushUnit, Partial.pushChar, htrailing, hleading]

theorem text_controlEscape (h : c.toNat < 32) :
    text ⟨acc, none, none⟩ (['\\', 'u', '0', '0', Text.Hex.digit (c.toNat / 16),
        Text.Hex.digit (c.toNat % 16)].flatMap utf8EncodeChar ++ rest) =
      text ⟨(utf8EncodeChar c).reverse ++ acc, none, none⟩ rest := by
  obtain ⟨hhigh, hlow⟩ := digit_lt h
  have hbytes : ['\\', 'u', '0', '0', Text.Hex.digit (c.toNat / 16),
      Text.Hex.digit (c.toNat % 16)].flatMap utf8EncodeChar =
      [0x5C, 0x75, 0x30, 0x30, UInt8.ofNat (Text.Hex.digit (c.toNat / 16)).toNat,
        UInt8.ofNat (Text.Hex.digit (c.toNat % 16)).toNat] := by
    simp only [List.flatMap_cons, List.flatMap_nil, utf8EncodeChar_of_lt hhigh,
      utf8EncodeChar_of_lt hlow]
    rfl
  rw [hbytes]
  simp only [List.cons_append, List.nil_append, text, fourDigits_control h,
    pushUnit_of_lt (Nat.lt_trans h (by decide))]

/-- A character is read from its escape, if it has one, and else from its own bytes. -/
theorem text_escapedChar (c : Char) :
    text ⟨acc, none, none⟩ ((escapedChar c).flatMap utf8EncodeChar ++ rest) =
      text ⟨(utf8EncodeChar c).reverse ++ acc, none, none⟩ rest := by
  unfold escapedChar
  split
  · rfl
  · rfl
  · rfl
  · rfl
  · rfl
  · rename_i hquote hslash _ _ _
    by_cases hback : c.toNat = 8
    · obtain rfl : c = Char.ofNat 8 := Char.toNat_inj.1 hback
      rfl
    · by_cases hfeed : c.toNat = 12
      · obtain rfl : c = Char.ofNat 12 := Char.toNat_inj.1 hfeed
        rfl
      · rw [if_neg hback, if_neg hfeed]
        by_cases hcontrol : c.toNat < 32
        · rw [if_pos hcontrol, text_controlEscape hcontrol]
        · have hplain : ∀ b ∈ utf8EncodeChar c, Plain b :=
            fun b => plain_of_mem_utf8EncodeChar (Nat.not_lt.1 hcontrol) hquote hslash
          rw [if_neg hcontrol, List.flatMap_singleton, text_append_of_plain hplain]

theorem text_escapedChars (cs : List Char) :
    text ⟨acc, none, none⟩ ((cs.flatMap escapedChar).flatMap utf8EncodeChar ++ rest) =
      text ⟨(cs.flatMap utf8EncodeChar).reverse ++ acc, none, none⟩ rest := by
  induction cs generalizing acc with
  | nil => rfl
  | cons c cs ih =>
    rw [List.flatMap_cons, List.flatMap_append, List.append_assoc, text_escapedChar, ih,
      List.flatMap_cons, List.reverse_append, List.append_assoc]

/-- The bytes of a JSON string after its opening quote. -/
def textBytes (s : String) : List UInt8 :=
  (s.toList.flatMap escapedChar).flatMap utf8EncodeChar ++ [0x22]

theorem encode_stringText (s : String) : encode (stringText s) = 0x22 :: textBytes s := by
  rw [stringText, encode_ofList, List.cons_append, List.flatMap_cons, List.flatMap_append]
  rfl

/-- A JSON string is read as the text that it was printed for. -/
theorem text_textBytes (s : String) : text {} (textBytes s ++ rest) = (.ok s, .ok rest) := by
  rw [textBytes, List.append_assoc, text_escapedChars, List.append_nil]
  have hfinish :
      Partial.finish ⟨(s.toList.flatMap utf8EncodeChar).reverse, none, none⟩ = .ok s := by
    simp only [Partial.finish, Partial.settle, List.reverse_reverse, ← encode_eq_flatMap,
      decode?_encode]
  simp only [List.cons_append, List.nil_append, text, hfinish]

/-! ## Numbers -/

/-- The values of the decimal digits of a number. -/
def digitValues (n : Nat) : List Nat := (Nat.toDigits 10 n).map fun c => c.toNat - 48

/-- Bytes that neither are nor begin with a byte that continues a number. -/
def EndsNumber (bytes : List UInt8) : Prop :=
  ∀ b ∈ bytes.head?, isDigit b = false ∧ b ≠ 0x2E ∧ b ≠ 0x65 ∧ b ≠ 0x45

theorem isDigit_digit (hc : c ∈ Nat.toDigits 10 n) :
    c.toNat < 128 ∧ isDigit (UInt8.ofNat c.toNat) = true ∧
      (UInt8.ofNat c.toNat).toNat - 0x30 = c.toNat - 48 := by
  have hdigit : c.isDigit = true := Nat.isDigit_of_mem_toDigits (by decide) (by decide) hc
  obtain ⟨hlow, hhigh⟩ : 48 ≤ c.toNat ∧ c.toNat ≤ 57 := by
    simpa [Char.isDigit, UInt32.le_iff_toNat_le] using hdigit
  have hnat : (UInt8.ofNat c.toNat).toNat = c.toNat := by
    rw [UInt8.toNat_ofNat']
    omega
  refine ⟨by omega, ?_, by rw [hnat]⟩
  simp only [isDigit, Bool.and_eq_true, decide_eq_true_eq, UInt8.le_iff_toNat_le, hnat]
  exact ⟨hlow, hhigh⟩

theorem encode_repr (n : Nat) :
    encode n.repr = (Nat.toDigits 10 n).map fun c => UInt8.ofNat c.toNat := by
  rw [encode_eq_flatMap, Nat.toList_repr, List.map_eq_flatMap]
  exact List.flatMap_congr fun c hc => utf8EncodeChar_of_lt (isDigit_digit hc).1

theorem takeDigits_repr (h : EndsNumber rest) :
    takeDigits (encode n.repr ++ rest) = (digitValues n, rest) := by
  have hdigits : ∀ b ∈ encode n.repr, isDigit b = true := by
    intro b hb
    rw [encode_repr] at hb
    obtain ⟨c, hc, rfl⟩ := List.mem_map.1 hb
    exact (isDigit_digit hc).2.1
  have hvalues : (encode n.repr).map (fun b => b.toNat - 0x30) = digitValues n := by
    rw [encode_repr, List.map_map]
    exact List.map_congr_left fun c hc => (isDigit_digit hc).2.2
  have hrest : rest.takeWhile isDigit = [] ∧ rest.dropWhile isDigit = rest := by
    cases rest with
    | nil => exact ⟨rfl, rfl⟩
    | cons b rest =>
      have hb : ¬isDigit b = true := by simp [(h b rfl).1]
      exact ⟨List.takeWhile_cons_of_neg hb, List.dropWhile_cons_of_neg hb⟩
  rw [takeDigits, List.takeWhile_append_of_pos hdigits, List.dropWhile_append_of_pos hdigits,
    hrest.1, hrest.2, List.append_nil, hvalues]

theorem digitValues_of_lt (h : n < 10) : digitValues n = [n] := by
  rw [digitValues, Nat.toDigits_of_lt_base h, List.map_singleton,
    Nat.toNat_digitChar_sub_48_of_lt_ten h]

theorem digitValues_of_le (h : 10 ≤ n) : digitValues n = digitValues (n / 10) ++ [n % 10] := by
  rw [digitValues, Nat.toDigits_of_base_le (by decide) h, List.map_append, List.map_singleton,
    Nat.toNat_digitChar_sub_48_of_lt_ten (Nat.mod_lt _ (by decide))]
  rfl

/-- Only the number zero has a zero in front. -/
theorem exists_digitValues (n : Nat) :
    ∃ d ds, digitValues n = d :: ds ∧ (d = 0 → n = 0 ∧ ds = []) := by
  induction n using Nat.strongRecOn with
  | ind n ih =>
    by_cases h : n < 10
    · exact ⟨n, [], digitValues_of_lt h, fun h => ⟨h, rfl⟩⟩
    · obtain ⟨d, ds, hds, hzero⟩ := ih (n / 10) (by omega)
      refine ⟨d, ds ++ [n % 10], ?_, fun h => ?_⟩
      · rw [digitValues_of_le (by omega), hds, List.cons_append]
      · have := (hzero h).1
        omega

theorem wholeDigits_repr (h : EndsNumber rest) :
    wholeDigits (encode n.repr ++ rest) = .ok (digitValues n, rest) := by
  obtain ⟨d, ds, hds, hzero⟩ := exists_digitValues n
  have hsome : someDigits (encode n.repr ++ rest) = .ok (d :: ds, rest) := by
    simp only [someDigits, takeDigits_repr h, hds]
  rw [wholeDigits, hsome, hds]
  cases d with
  | zero =>
    rw [(hzero rfl).2]
    rfl
  | succ d => rfl

theorem appendDigits_eq {ds : List Nat} {acc : Nat}
    (h : ds.foldl (fun acc d => acc * 10 + d) acc ≤ maxWord) :
    appendDigits acc ds = (ds.foldl (fun acc d => acc * 10 + d) acc, ds.length) := by
  induction ds generalizing acc with
  | nil => rfl
  | cons d ds ih =>
    have hgrow : ∀ (ds : List Nat) (acc : Nat), acc ≤ ds.foldl (fun acc d => acc * 10 + d) acc := by
      intro ds
      induction ds with
      | nil => exact fun _ => Nat.le_refl _
      | cons d ds ih => exact fun acc => Nat.le_trans (by omega) (ih (acc * 10 + d))
    have hfit : ¬maxWord < acc * 10 + d := Nat.not_lt.2 (Nat.le_trans (hgrow ds _) h)
    rw [appendDigits, if_neg hfit, ih h]
    rfl

theorem foldl_digitValues (n : Nat) : (digitValues n).foldl (fun acc d => acc * 10 + d) 0 = n := by
  induction n using Nat.strongRecOn with
  | ind n ih =>
    by_cases h : n < 10
    · simp [digitValues_of_lt h]
    · rw [digitValues_of_le (by omega), List.foldl_append, ih (n / 10) (by omega)]
      simp only [List.foldl_cons, List.foldl_nil]
      omega

theorem exists_encode_repr (n : Nat) : ∃ b more, encode n.repr = b :: more ∧ isDigit b = true := by
  have hrepr := encode_repr n
  cases hdigits : Nat.toDigits 10 n with
  | nil => exact absurd hdigits Nat.toDigits_ne_nil
  | cons c cs =>
    rw [hdigits, List.map_cons] at hrepr
    exact ⟨_, _, hrepr, (isDigit_digit (hdigits ▸ List.mem_cons_self)).2.1⟩

theorem fractionDigits_of_endsNumber (h : EndsNumber rest) :
    fractionDigits rest = .ok (none, rest) := by
  unfold fractionDigits
  split
  · exact absurd rfl (h _ rfl).2.1
  · rfl

theorem exponentDigits_of_endsNumber (h : EndsNumber rest) :
    exponentDigits rest = .ok (none, rest) := by
  unfold exponentDigits
  split
  · exact absurd rfl (h _ rfl).2.2.1
  · exact absurd rfl (h _ rfl).2.2.2
  · rfl

theorem literal_repr (h : EndsNumber rest) :
    literal (encode n.repr ++ rest) = .ok (⟨false, digitValues n, none, none⟩, rest) := by
  obtain ⟨b, more, hbytes, hb⟩ := exists_encode_repr n
  have hsign : b ≠ 0x2D := by
    rintro rfl
    exact absurd hb (by decide)
  have hwhole := wholeDigits_repr (n := n) h
  rw [hbytes, List.cons_append] at hwhole ⊢
  unfold literal
  split
  rename_i negative bytes hmatch
  split at hmatch
  · rename_i heq
    exact absurd (List.cons.inj heq).1 hsign
  · obtain ⟨rfl, rfl⟩ := Prod.mk.inj hmatch
    rw [hwhole]
    simp only [bind, Except.bind, fractionDigits_of_endsNumber h, exponentDigits_of_endsNumber h]
    rfl

/-- A natural number of sixty-four bits is read as itself. -/
theorem number_repr (hn : n ≤ maxWord) (h : EndsNumber rest) :
    number (encode n.repr ++ rest) = (.number (.integer n), .ok rest) := by
  have hdigits : appendDigits 0 (digitValues n) = (n, (digitValues n).length) := by
    rw [appendDigits_eq (by rw [foldl_digitValues]; exact hn), foldl_digitValues]
  have hnumber : Literal.number? ⟨false, digitValues n, none, none⟩ = some (.integer n) := by
    simp [Literal.number?, hdigits]
  simp only [number, literal_repr h, hnumber]

end AssetOracle.Json.Reader
