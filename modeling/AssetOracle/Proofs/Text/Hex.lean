import AssetOracle.Proofs.Text.Percent

/-!
# Hexadecimal digits of either case

A digit is read like the same digit in lower case (`digit?_eq_some_iff`), and two digits per byte
are read as the bytes whose digits they are but for their case (`decodeBytes?_eq_some_iff`).
-/

namespace AssetOracle.Text.Hex

variable {c : Char} {cs : List Char} {b : UInt8} {bytes : List UInt8} {n : Nat}

/-- The digits of both cases. -/
def alphabet : List Char := "0123456789abcdefABCDEF".toList

theorem mem_alphabet_iff : c ∈ alphabet ↔ Percent.isHex c = true := by
  constructor
  · have hall : alphabet.all Percent.isHex = true := by decide
    exact List.all_eq_true.1 hall c
  · intro h
    exact Utf8.of_toNat_lt (fun c => Percent.isHex c = true → c ∈ alphabet) 128 (by decide +kernel)
      (Percent.toNat_lt_of_isHex h) h

theorem digit_lt (h : n < 16) : (digit n).toNat < 128 := by
  have hall : ∀ m : Fin 16, (digit m).toNat < 128 := by decide
  exact hall ⟨n, h⟩

theorem toNat_lt_of_toLower (h : c.toLower.toNat < 128) : c.toNat < 128 := by
  unfold Char.toLower at h
  split at h
  · rename_i hupper
    have hbound : c.toNat ≤ 'Z'.toNat := hupper.2
    exact Nat.lt_of_le_of_lt hbound (by decide)
  · exact h

/-- A digit stands for a number if its lower case is the digit that is written for it. -/
theorem digit?_eq_some_iff : digit? c = some n ↔ n < 16 ∧ c.toLower = digit n := by
  constructor
  · intro h
    have hhex : Percent.isHex c = true := by rw [Percent.isHex, h, Option.isSome_some]
    have hall : (digit? c).all fun n => n < 16 ∧ c.toLower = digit n :=
      Utf8.of_toNat_lt (fun c => (digit? c).all fun n => n < 16 ∧ c.toLower = digit n) 128
        (by decide +kernel) (Percent.toNat_lt_of_isHex hhex)
    simpa [h] using hall
  · rintro ⟨hn, hlower⟩
    have hsize : c.toNat < 128 := toNat_lt_of_toLower (hlower ▸ digit_lt hn)
    have hall : ∀ m : Fin 16, c.toLower = digit m → digit? c = some m.val :=
      Utf8.of_toNat_lt (fun c => ∀ m : Fin 16, c.toLower = digit m → digit? c = some m.val) 128
        (by decide +kernel) hsize
    exact hall ⟨n, hn⟩ hlower

theorem isHex_of_toLower_eq (hn : n < 16) (h : c.toLower = digit n) : Percent.isHex c = true := by
  rw [Percent.isHex, digit?_eq_some_iff.2 ⟨hn, h⟩, Option.isSome_some]

/-! ## Pairs of digits -/

@[simp] theorem length_encodeBytes (bytes : List UInt8) :
    (encodeBytes bytes).length = 2 * bytes.length := by
  induction bytes with
  | nil => rfl
  | cons b bytes ih =>
    simp only [encodeBytes, List.length_cons, ih]
    omega

/-- Two numbers below sixteen make the byte whose halves they are. -/
theorem ofNat_eq_iff {high low : Nat} (hhigh : high < 16) (hlow : low < 16) :
    UInt8.ofNat (16 * high + low) = b ↔ high = b.toNat / 16 ∧ low = b.toNat % 16 := by
  have hb := b.toNat_lt
  rw [← UInt8.toNat_inj, UInt8.toNat_ofNat', Nat.mod_eq_of_lt (by omega)]
  omega

theorem decodeBytes?_cons_eq_some_iff {high low : Char} :
    decodeBytes? (high :: low :: cs) = some (b :: bytes) ↔
      digit? high = some (b.toNat / 16) ∧ digit? low = some (b.toNat % 16) ∧
        decodeBytes? cs = some bytes := by
  have hread : decodeBytes? (high :: low :: cs) = some (b :: bytes) ↔
      ∃ h, digit? high = some h ∧ ∃ l, digit? low = some l ∧ ∃ rest, decodeBytes? cs = some rest ∧
        UInt8.ofNat (16 * h + l) = b ∧ rest = bytes := by
    simp [decodeBytes?, Option.bind_eq_some_iff]
  rw [hread]
  constructor
  · rintro ⟨h, hh, l, hl, rest, hrest, hb, rfl⟩
    obtain ⟨rfl, rfl⟩ := (ofNat_eq_iff (digit?_eq_some_iff.1 hh).1 (digit?_eq_some_iff.1 hl).1).1 hb
    exact ⟨hh, hl, hrest⟩
  · rintro ⟨hh, hl, hrest⟩
    have hbyte := (ofNat_eq_iff (digit?_eq_some_iff.1 hh).1 (digit?_eq_some_iff.1 hl).1).2
      (⟨rfl, rfl⟩ : _ ∧ b.toNat % 16 = b.toNat % 16)
    exact ⟨_, hh, _, hl, _, hrest, hbyte, rfl⟩

/-- Digits are read as the bytes whose digits they are in lower case. -/
theorem decodeBytes?_eq_some_iff :
    decodeBytes? cs = some bytes ↔ cs.map Char.toLower = encodeBytes bytes := by
  fun_induction decodeBytes? cs generalizing bytes with
  | case1 => cases bytes <;> simp [encodeBytes]
  | case2 c => cases bytes <;> simp [encodeBytes]
  | case3 high low rest ih =>
    show decodeBytes? (high :: low :: rest) = some bytes ↔ _
    cases bytes with
    | nil => simp [decodeBytes?, encodeBytes, Option.bind_eq_some_iff]
    | cons b bytes =>
      have hb := b.toNat_lt
      rw [decodeBytes?_cons_eq_some_iff, ih, digit?_eq_some_iff, digit?_eq_some_iff, encodeBytes]
      simp only [List.map_cons, List.cons.injEq]
      constructor
      · rintro ⟨⟨-, hhigh⟩, ⟨-, hlow⟩, hrest⟩
        exact ⟨hhigh, hlow, hrest⟩
      · rintro ⟨hhigh, hlow, hrest⟩
        exact ⟨⟨by omega, hhigh⟩, ⟨by omega, hlow⟩, hrest⟩

/-- An even number of digits is read. -/
theorem exists_decodeBytes? {size : Nat} (hlength : cs.length = 2 * size)
    (h : ∀ c ∈ cs, Percent.isHex c = true) :
    ∃ bytes, decodeBytes? cs = some bytes ∧ bytes.length = size := by
  induction size generalizing cs with
  | zero =>
    obtain rfl := List.length_eq_zero_iff.1 hlength
    exact ⟨[], rfl, rfl⟩
  | succ size ih =>
    obtain ⟨high, low, rest, rfl⟩ : ∃ high low rest, cs = high :: low :: rest := by
      match cs, hlength with
      | high :: low :: rest, _ => exact ⟨high, low, rest, rfl⟩
    simp only [List.forall_mem_cons] at h
    obtain ⟨hhigh, hlow, hrest⟩ := h
    obtain ⟨bytes, hbytes, hsize⟩ := ih (by simp only [List.length_cons] at hlength; omega) hrest
    obtain ⟨m, hm⟩ := Option.isSome_iff_exists.1 hhigh
    obtain ⟨n, hn⟩ := Option.isSome_iff_exists.1 hlow
    refine ⟨UInt8.ofNat (16 * m + n) :: bytes, ?_, by rw [List.length_cons, hsize]⟩
    rw [decodeBytes?, hm, hn, hbytes]
    rfl

theorem exists_digit_of_mem (h : c ∈ encodeBytes bytes) : ∃ n < 16, c = digit n := by
  induction bytes with
  | nil => cases h
  | cons b bytes ih =>
    have hb := b.toNat_lt
    simp only [encodeBytes, List.mem_cons] at h
    rcases h with rfl | rfl | h
    · exact ⟨_, by omega, rfl⟩
    · exact ⟨_, by omega, rfl⟩
    · exact ih h

/-- What is read consists of digits. -/
theorem isHex_of_mem (h : decodeBytes? cs = some bytes) (hc : c ∈ cs) : Percent.isHex c = true := by
  have hlower : c.toLower ∈ encodeBytes bytes := by
    rw [← decodeBytes?_eq_some_iff.1 h]
    exact List.mem_map_of_mem hc
  obtain ⟨n, hn, hdigit⟩ := exists_digit_of_mem hlower
  exact isHex_of_toLower_eq hn hdigit

theorem toLower_of_mem_encodeBytes (h : c ∈ encodeBytes bytes) : c.toLower = c := by
  obtain ⟨n, hn, rfl⟩ := exists_digit_of_mem h
  have hall : ∀ m : Fin 16, (digit m).toLower = digit m := by decide
  exact hall ⟨n, hn⟩

theorem decodeBytes?_encodeBytes (bytes : List UInt8) :
    decodeBytes? (encodeBytes bytes) = some bytes :=
  decodeBytes?_eq_some_iff.2
    ((List.map_congr_left fun _ => toLower_of_mem_encodeBytes).trans (List.map_id _))

theorem encodeBytes_injective : Function.Injective encodeBytes := by
  intro bytes bytes' h
  have hsame := congrArg decodeBytes? h
  rw [decodeBytes?_encodeBytes, decodeBytes?_encodeBytes] at hsame
  exact Option.some.inj hsame

end AssetOracle.Text.Hex
