import AssetOracle.Evm.Bytes
import AssetOracle.Proofs.Result
import AssetOracle.Proofs.Text.Hex

/-!
# Spellings of addresses and hashes

A byte string is read from its digits in any case, perhaps after a mark, and from nothing else
(`parse_eq_ok_iff`); so a text is accepted exactly if it is made like that
(`exists_parse_eq_ok_iff`). What is printed is one of the spellings, also in the mixed case of
addresses, whose checksum changes nothing but the case of letters (`FixedBytes.spells_render`,
`Address.spells_render`).
-/

namespace AssetOracle.Evm

open Text (Hex.alphabet Hex.decodeBytes? Hex.encodeBytes Percent.isHex Utf8.encode)

variable {size position : Nat} {s : String} {x : FixedBytes size} {bytes ds : List UInt8}
  {cs : List Char}

/-- What may stand in front of the digits. -/
def marks : List (List Char) := [[], ['0', 'x'], ['0', 'X']]

/-- Whether a text is made of two digits per byte, each of either case, perhaps after a mark. -/
def IsSpelling (size : Nat) (s : String) : Prop :=
  ∃ mark ∈ marks, ∃ digits, s.toList = mark ++ digits ∧ digits.length = 2 * size ∧
    ∀ c ∈ digits, c ∈ Hex.alphabet

/-- Whether a text spells bytes: but for their case its digits are those of the bytes, perhaps after
    a mark. -/
def Spells (s : String) (bytes : List UInt8) : Prop :=
  ∃ mark ∈ marks, ∃ digits, s.toList = mark ++ digits ∧
    digits.map Char.toLower = Hex.encodeBytes bytes

/-! ## Bytes that are read -/

/-- The bytes of characters below 128. -/
def bytesOf (cs : List Char) : List UInt8 := cs.map fun c => UInt8.ofNat c.toNat

theorem map_asChar_bytesOf (h : ∀ c ∈ cs, c.toNat < 128) : (bytesOf cs).map asChar = cs := by
  have hone : ∀ c ∈ cs, asChar (UInt8.ofNat c.toNat) = c := fun c hc =>
    Text.Percent.ofNat_toNat_byte (h c hc)
  rw [bytesOf, List.map_map]
  exact (List.map_congr_left hone).trans (List.map_id _)

/-- Pairs are read as digits are. -/
theorem readPairs_eq_ok_iff :
    readPairs position ds = .ok bytes ↔ Hex.decodeBytes? (ds.map asChar) = some bytes := by
  fun_induction readPairs position ds generalizing bytes with
  | case1 => simp [Hex.decodeBytes?]
  | case2 => simp [Hex.decodeBytes?]
  | case3 position high low rest hhigh => simp [Hex.decodeBytes?, hhigh]
  | case4 position high low rest hlow =>
    cases hhigh : Text.Hex.digit? (asChar high) <;> simp [Hex.decodeBytes?, hhigh, hlow]
  | case5 position high low rest h l hhigh hlow ih =>
    have hdecode : Hex.decodeBytes? ((high :: low :: rest).map asChar) =
        (Hex.decodeBytes? (rest.map asChar)).map (UInt8.ofNat (16 * h + l) :: ·) := by
      rw [List.map_cons, List.map_cons, Hex.decodeBytes?, hhigh, hlow]
      cases Hex.decodeBytes? (rest.map asChar) <;> rfl
    rw [hdecode, Option.map_eq_some_iff]
    constructor
    · intro hread
      obtain ⟨tail, htail, hbytes⟩ := Result.bind_eq_ok_iff.1 hread
      exact ⟨tail, ih.1 htail, Except.ok.inj hbytes⟩
    · rintro ⟨tail, htail, rfl⟩
      exact Result.bind_eq_ok_iff.2 ⟨tail, ih.2 htail, rfl⟩

/-- The mark is what is dropped. -/
theorem exists_mark (ds : List UInt8) : ∃ mark ∈ marks, ds = bytesOf mark ++ dropMark ds := by
  fun_cases dropMark ds with
  | case1 rest => exact ⟨['0', 'x'], by decide, rfl⟩
  | case2 rest => exact ⟨['0', 'X'], by decide, rfl⟩
  | case3 => exact ⟨[], by decide, rfl⟩

theorem toNat_lt_of_mem_mark {mark : List Char} {c : Char} (h : mark ∈ marks) (hc : c ∈ mark) :
    c.toNat < 128 := by
  have hall : marks.flatten.all (·.toNat < 128) = true := by decide
  exact of_decide_eq_true (List.all_eq_true.1 hall c (List.mem_flatten_of_mem h hc))

/-- No mark is taken off digits. -/
theorem dropMark_of_isHex (h : ∀ c ∈ cs, Percent.isHex c = true) :
    dropMark (bytesOf cs) = bytesOf cs := by
  have hall : ∀ b ∈ bytesOf cs, Percent.isHex (asChar b) = true := by
    intro b hb
    have hmem : asChar b ∈ (bytesOf cs).map asChar := List.mem_map_of_mem hb
    rw [map_asChar_bytesOf fun c hc => Text.Percent.toNat_lt_of_isHex (h c hc)] at hmem
    exact h _ hmem
  obtain ⟨mark, hmark, hds⟩ := exists_mark (bytesOf cs)
  simp only [marks, List.mem_cons, List.not_mem_nil, or_false] at hmark
  rcases hmark with rfl | rfl | rfl
  · exact hds.symm
  · exact absurd (hall 0x78 (by rw [hds]; simp [bytesOf])) (by decide)
  · exact absurd (hall 0x58 (by rw [hds]; simp [bytesOf])) (by decide)

theorem dropMark_append {mark : List Char} (hmark : mark ∈ marks)
    (h : ∀ c ∈ cs, Percent.isHex c = true) : dropMark (bytesOf (mark ++ cs)) = bytesOf cs := by
  simp only [marks, List.mem_cons, List.not_mem_nil, or_false] at hmark
  rcases hmark with rfl | rfl | rfl
  · exact dropMark_of_isHex h
  · rfl
  · rfl

theorem Spells.of_decode
    (h : Hex.decodeBytes? ((dropMark (Utf8.encode s)).map asChar) = some bytes) :
    Spells s bytes := by
  obtain ⟨mark, hmark, hbytes⟩ := exists_mark (Utf8.encode s)
  -- Neither marks nor digits have bytes from 128 on, so every character is one byte.
  have hsmall : ∀ b ∈ Utf8.encode s, b.toNat < 128 := by
    intro b hb
    rw [hbytes, List.mem_append] at hb
    rcases hb with hb | hb
    · obtain ⟨c, hc, rfl⟩ := List.mem_map.1 hb
      have hlt := toNat_lt_of_mem_mark hmark hc
      rwa [UInt8.toNat_ofNat', Nat.mod_eq_of_lt (by omega)]
    · exact Text.Percent.toNat_lt_of_isHex_byte (Text.Hex.isHex_of_mem h (List.mem_map_of_mem hb))
  have hchars : ∀ c ∈ s.toList, c.toNat < 128 := fun c => Text.Utf8.toNat_lt_of_encode hsmall
  have htext : s.toList = (Utf8.encode s).map asChar := by
    rw [Text.Utf8.encode_of_lt hchars]
    exact (map_asChar_bytesOf hchars).symm
  refine ⟨mark, hmark, _, ?_, Text.Hex.decodeBytes?_eq_some_iff.1 h⟩
  rw [htext, ← map_asChar_bytesOf fun c => toNat_lt_of_mem_mark hmark, ← List.map_append, ← hbytes]

theorem Spells.decode (h : Spells s bytes) :
    Hex.decodeBytes? ((dropMark (Utf8.encode s)).map asChar) = some bytes := by
  obtain ⟨mark, hmark, digits, hs, hdigits⟩ := h
  have hbytes := Text.Hex.decodeBytes?_eq_some_iff.2 hdigits
  have hhex : ∀ c ∈ digits, Percent.isHex c = true := fun c => Text.Hex.isHex_of_mem hbytes
  have hsmall : ∀ c ∈ digits, c.toNat < 128 := fun c hc =>
    Text.Percent.toNat_lt_of_isHex (hhex c hc)
  have hchars : ∀ c ∈ s.toList, c.toNat < 128 := by
    intro c hc
    rw [hs, List.mem_append] at hc
    rcases hc with hc | hc
    · exact toNat_lt_of_mem_mark hmark hc
    · exact hsmall c hc
  have hdrop : dropMark (Utf8.encode s) = bytesOf digits := by
    rw [Text.Utf8.encode_of_lt hchars, hs]
    exact dropMark_append hmark hhex
  rw [hdrop, map_asChar_bytesOf hsmall]
  exact hbytes

/-- Bytes are read from their spellings, and from nothing else. -/
theorem readPairs_dropMark_eq_ok_iff :
    readPairs 0 (dropMark (Utf8.encode s)) = .ok bytes ↔ Spells s bytes :=
  readPairs_eq_ok_iff.trans ⟨Spells.of_decode, Spells.decode⟩

/-- A byte string of a fixed length is read from its spellings, and from nothing else: neither check
    of the length refuses what has so many bytes. -/
theorem parse_eq_ok_iff : FixedBytes.parse size s = .ok x ↔ Spells s x.bytes := by
  rw [← readPairs_dropMark_eq_ok_iff]
  constructor
  · intro h
    unfold FixedBytes.parse at h
    simp only at h
    split at h
    · cases h
    · split at h
      · split at h
        · rename_i bytes hbytes
          rw [hbytes, ← Except.ok.inj h]
        · cases h
      · cases h
  · intro h
    have hlength := length_readPairs h
    rw [x.length_bytes] at hlength
    unfold FixedBytes.parse
    simp only
    rw [if_neg (by omega), dif_pos hlength.symm]
    split
    · rename_i bytes hbytes
      rw [h] at hbytes
      cases hbytes
      rfl
    · rename_i e he
      rw [h] at he
      cases he

/-- A text is read if it is made of so many digits, perhaps after a mark. -/
theorem exists_parse_eq_ok_iff : (∃ x, FixedBytes.parse size s = .ok x) ↔ IsSpelling size s := by
  simp only [parse_eq_ok_iff]
  constructor
  · rintro ⟨x, mark, hmark, digits, hs, hdigits⟩
    refine ⟨mark, hmark, digits, hs, ?_, fun c hc => ?_⟩
    · have hlength := congrArg List.length hdigits
      rwa [List.length_map, Text.Hex.length_encodeBytes, x.length_bytes] at hlength
    · exact Text.Hex.mem_alphabet_iff.2
        (Text.Hex.isHex_of_mem (Text.Hex.decodeBytes?_eq_some_iff.2 hdigits) hc)
  · rintro ⟨mark, hmark, digits, hs, hlength, hall⟩
    obtain ⟨bytes, hbytes, hsize⟩ := Text.Hex.exists_decodeBytes? hlength fun c hc =>
      Text.Hex.mem_alphabet_iff.1 (hall c hc)
    exact ⟨⟨bytes, hsize⟩, mark, hmark, digits, hs, Text.Hex.decodeBytes?_eq_some_iff.1 hbytes⟩

/-! ## Byte strings that are printed -/

theorem FixedBytes.spells_render (x : FixedBytes size) : Spells x.render x.bytes := by
  refine ⟨['0', 'x'], by decide, x.digits, String.toList_ofList, ?_⟩
  exact (List.map_congr_left fun _ => Text.Hex.toLower_of_mem_encodeBytes).trans (List.map_id _)

namespace Address

theorem length_digest (bytes : List UInt8) : (Keccak.digest bytes).length = 32 := by
  simp [Keccak.digest, Keccak.laneBytes, List.length_flatMap]

theorem length_halves (bytes : List UInt8) : (halves bytes).length = 2 * bytes.length := by
  induction bytes with
  | nil => rfl
  | cons b bytes ih =>
    rw [halves, List.flatMap_cons, List.length_append, ← halves, ih, List.length_cons]
    simp only [List.length_cons, List.length_nil]
    omega

theorem toLower_caseDigit {c : Char} {check : Nat} (h : c ∈ Hex.encodeBytes bytes) :
    (caseDigit c check).toLower = c := by
  obtain ⟨n, hn, rfl⟩ := Text.Hex.exists_digit_of_mem h
  have hall : ∀ m : Fin 16, (Text.Hex.digit m).toUpper.toLower = Text.Hex.digit m := by decide
  unfold caseDigit
  split
  · exact hall ⟨n, hn⟩
  · exact Text.Hex.toLower_of_mem_encodeBytes h

/-- A checksum that is long enough changes the case of digits only. -/
theorem map_toLower_zipWith_caseDigit {checks : List Nat} (h : ∀ c ∈ cs, c ∈ Hex.encodeBytes bytes)
    (hlength : cs.length ≤ checks.length) :
    (List.zipWith caseDigit cs checks).map Char.toLower = cs := by
  induction cs generalizing checks with
  | nil => rfl
  | cons c cs ih =>
    cases checks with
    | nil => cases hlength
    | cons check checks =>
      rw [List.zipWith_cons_cons, List.map_cons, toLower_caseDigit (h c List.mem_cons_self),
        ih (fun d hd => h d (List.mem_cons_of_mem c hd)) (Nat.le_of_succ_le_succ hlength)]

/-- The mixed case of an address is one of its spellings, whatever the checksum is. -/
theorem spells_render (address : Address) : Spells (Address.render address) address.bytes := by
  refine ⟨['0', 'x'], by decide, _, String.toList_ofList, ?_⟩
  apply map_toLower_zipWith_caseDigit fun c hc => hc
  rw [length_halves, length_digest, Text.Hex.length_encodeBytes,
    address.length_bytes]
  decide

end Address

end AssetOracle.Evm
