import AssetOracle.Http.Envelope
import AssetOracle.Proofs.Registry.Wire

/-!
# Envelopes that are read back

What is put into an envelope is what its decoder takes out: the data of a success, and the message
and the code of a failure, whose data is null.
-/

namespace AssetOracle.Http

open Decoder (decode_ofMembers inverts_text inverts_short inverts_list)
open Json (Portable)

variable {α : Type} {dialect : Dialect} {depth : Nat}

/-! ## Data -/

theorem inverts_decodeData {decode : Decoder α} {encode : α → Json} (h : decode.Inverts encode) :
    (decodeData decode).Inverts fun x => dataBody (encode x) := by
  intro dialect x
  refine decode_ofMembers (by simp) (by simp) ⟨(x, ()), rfl, ?_⟩
  simp [Row.Reads, Field.Reads, Field.required, Keyed.find?, h dialect]

theorem inverts_decodeTransaction :
    decodeTransaction.Inverts fun t => dataBody (transactionData t) := by
  refine inverts_decodeData fun dialect t => ?_
  refine decode_ofMembers (by decide) (by simp) ⟨(t, ()), rfl, ?_⟩
  simp [Row.Reads, Field.Reads, Field.required, Keyed.find?, Transaction.inverts_decode dialect]

theorem inverts_decodeListing : decodeListing.Inverts fun nodes => dataBody (listingData nodes) := by
  refine inverts_decodeData fun dialect nodes => ?_
  refine decode_ofMembers (by decide) (by simp) ⟨(nodes, ()), rfl, ?_⟩
  simp [Row.Reads, Field.Reads, Field.required, Keyed.find?,
    inverts_list RegisteredNode.inverts_decode dialect]

theorem portable_dataBody {data : Json} (h : Portable depth data) :
    Portable (depth + 1) (dataBody data) := by
  apply Portable.ofMembers
  simpa using h

theorem portable_transactionData (t : Transaction) : Portable (depth + 3) (transactionData t) := by
  apply Portable.ofMembers
  simpa using t.portable_encode

theorem portable_listingData (nodes : List RegisteredNode) :
    Portable (depth + 4) (listingData nodes) := by
  have hentries : Portable (depth + 3) (.array (nodes.map (·.encode))) := by
    apply Portable.array
    intro item hitem
    obtain ⟨n, -, rfl⟩ := List.mem_map.1 hitem
    exact n.portable_encode
  apply Portable.ofMembers
  simpa using hentries

/-! ## Failures -/

theorem FailureBody.portable_encode (message : String) (code : UInt16) :
    Portable (depth + 1) (encode ⟨none, message, code⟩) := by
  have hcode : code.toNat ≤ Json.maxWord := Nat.le_of_lt (Nat.lt_trans code.toNat_lt (by decide))
  apply Portable.ofMembers
  simp [Portable.text, Portable.null, Portable.nat hcode]

theorem FailureBody.decode_encode (message : String) (code : UInt16) :
    decode dialect (encode ⟨none, message, code⟩).toDocument = .ok ⟨none, message, code⟩ := by
  have hdata : Decoder.optional Decoder.any dialect Json.null.toDocument = .ok none := by
    rw [Json.toDocument]
    rfl
  have hcode : Decoder.short dialect (Json.nat code.toNat).toDocument = .ok code :=
    inverts_short dialect code
  refine decode_ofMembers (by decide) (by simp) ⟨(none, message, code, ()), rfl, ?_⟩
  simp [Row.Reads, Field.Reads, Field.required, Field.nullable, Keyed.find?, hdata, hcode,
    inverts_text dialect]

/-! ## Imports -/

/-- The body of an import request is read as its address. -/
theorem ImportRequest.decode_encode (address : String) :
    decode dialect (Json.ofMembers [("addr", .text address)]).toDocument = .ok ⟨address⟩ := by
  refine decode_ofMembers (by decide) (by simp) ⟨(address, ()), rfl, ?_⟩
  simp [Row.Reads, Field.Reads, Field.required, Keyed.find?, inverts_text dialect]

end AssetOracle.Http
