import AssetOracle.Chain.Wire
import AssetOracle.Proofs.Document.RoundTrip
import AssetOracle.Proofs.Json.RoundTrip

/-!
# Chain data that is read back

The decoders of chain data give back what was encoded, from text as well as from a value: every
number of sixty-four bits exactly, and a threshold or a count that is absent as absent.
-/

namespace AssetOracle

open Decoder (decode_ofMembers inverts_text inverts_bool inverts_list)
open Json (Portable)

variable {depth : Nat}

theorem Decoder.inverts_word : word.Inverts Json.word := by
  intro dialect n
  have hsize := n.toNat_lt
  rw [word, map, Json.word, integer_nat (by omega)]
  simp [Except.map]

theorem Decoder.optional_word {dialect : Dialect} (n : UInt64) :
    optional word dialect (Json.word n).toDocument = .ok (some n) := by
  have hnull : (Json.word n).toDocument ≠ .null := by
    rw [Json.word, Json.nat, Json.toDocument]
    exact Document.noConfusion
  rw [optional_of_ne_null hnull, inverts_word dialect n]
  rfl

theorem Json.portable_word (n : UInt64) : Portable depth (.word n) :=
  .nat (Nat.le_of_lt_succ n.toNat_lt)

/-! ## Decoding -/

theorem ChainState.inverts_decode : decode.Inverts encode := by
  intro dialect s
  refine decode_ofMembers (by decide) (by simp) ⟨(s.chain, s.height, s.blockHash, ()), rfl, ?_⟩
  simp [Row.Reads, Field.Reads, Field.required, Keyed.find?, inverts_text dialect,
    Decoder.inverts_word dialect]

theorem AssetBalance.inverts_decode : decode.Inverts encode := by
  intro dialect b
  refine decode_ofMembers (by decide) (by simp) ⟨(b.asset, b.balance, ()), rfl, ?_⟩
  simp [Row.Reads, Field.Reads, Field.required, Keyed.find?, inverts_text dialect]

theorem Balance.inverts_decode : decode.Inverts encode := by
  intro dialect b
  refine decode_ofMembers (by decide) (by simp) ⟨(b.assets, ()), rfl, ?_⟩
  simp [Row.Reads, Field.Reads, Field.required, Keyed.find?,
    inverts_list AssetBalance.inverts_decode dialect]

theorem Confirmation.nodup_members (c : Confirmation) :
    ((Json.memberOf "threshold" Json.word c.threshold ++ [("confirmed", Json.bool c.confirmed)] ++
      Json.memberOf "value" Json.word c.observed).map (·.1)).Nodup := by
  cases c.threshold <;> cases c.observed <;> simp [Json.memberOf]

theorem Confirmation.inverts_decode : decode.Inverts encode := by
  intro dialect c
  refine decode_ofMembers (by decide) c.nodup_members
    ⟨(c.threshold, c.confirmed, c.observed, ()), rfl, ?_⟩
  -- A number that is there is no null, and one that is not there is no member.
  cases c.threshold <;> cases c.observed <;>
    simp [Row.Reads, Field.Reads, Field.required, Field.optional, Field.withDefault, Keyed.find?,
      Json.memberOf, inverts_bool dialect, Decoder.optional_word]

theorem Transaction.inverts_decode : decode.Inverts encode := by
  intro dialect t
  refine decode_ofMembers (by decide) (by simp)
    ⟨(t.id, t.sender, t.recipient, t.value, t.confirmation, ()), rfl, ?_⟩
  simp [Row.Reads, Field.Reads, Field.required, Keyed.find?, inverts_text dialect,
    Confirmation.inverts_decode dialect]

/-! ## Members that may be missing -/

theorem Confirmation.get?_threshold (c : Confirmation) :
    c.encode.get? "threshold" = c.threshold.map .word := by
  rw [encode, Json.get?_ofMembers c.nodup_members]
  cases c.threshold <;> cases c.observed <;> simp [Json.memberOf, Keyed.find?]

theorem Confirmation.get?_observed (c : Confirmation) :
    c.encode.get? "value" = c.observed.map .word := by
  rw [encode, Json.get?_ofMembers c.nodup_members]
  cases c.threshold <;> cases c.observed <;> simp [Json.memberOf, Keyed.find?]

/-! ## Printing -/

theorem ChainState.portable_encode (s : ChainState) : Portable (depth + 1) s.encode := by
  apply Portable.ofMembers
  simp [Portable.text, Json.portable_word]

theorem AssetBalance.portable_encode (b : AssetBalance) : Portable (depth + 1) b.encode := by
  apply Portable.ofMembers
  simp [Portable.text]

theorem Balance.portable_encode (b : Balance) : Portable (depth + 3) b.encode := by
  apply Portable.ofMembers
  intro member hmember
  rw [List.mem_singleton.1 hmember]
  apply Portable.array
  intro item hitem
  obtain ⟨asset, -, rfl⟩ := List.mem_map.1 hitem
  exact asset.portable_encode

theorem Confirmation.portable_encode (c : Confirmation) : Portable (depth + 1) c.encode := by
  apply Portable.ofMembers
  cases c.threshold <;> cases c.observed <;>
    simp [Json.memberOf, Portable.bool, Json.portable_word]

theorem Transaction.portable_encode (t : Transaction) : Portable (depth + 2) t.encode := by
  apply Portable.ofMembers
  simp [Portable.text, t.confirmation.portable_encode]

end AssetOracle
