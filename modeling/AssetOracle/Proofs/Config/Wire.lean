import AssetOracle.Config.Basic
import AssetOracle.Proofs.Chain.Wire

/-!
# Settings that are read back

Settings are printed in full, with null for what a node does not set, and their decoders give back
what was printed: a section has the values it was given and not its defaults, and a setting that is
absent is absent and not empty.
-/

namespace AssetOracle

open Decoder (decode_ofMembers inverts_text inverts_bool inverts_word inverts_list)
open Json (Portable)

variable {depth : Nat}

/-! ## Decoding -/

theorem Listener.inverts_decode : decode.Inverts encode := by
  intro dialect l
  refine decode_ofMembers (by decide) (by simp) ⟨(l.address, ()), rfl, ?_⟩
  simp [Row.Reads, Field.Reads, Field.withDefault, Keyed.find?, inverts_text dialect]

theorem Timeouts.inverts_decode : decode.Inverts encode := by
  intro dialect t
  have hword : ∀ n : UInt64, Decoder.word dialect (Json.nat n.toNat).toDocument = .ok n :=
    inverts_word dialect
  refine decode_ofMembers (by decide) (by simp) ⟨(t.request, t.rpc, t.importing, ()), rfl, ?_⟩
  simp [Row.Reads, Field.Reads, Field.withDefault, Keyed.find?, hword]

theorem Observability.inverts_decode : decode.Inverts encode := by
  intro dialect o
  refine decode_ofMembers (by decide) (by simp)
    ⟨(o.logLevel, o.jsonLogs, o.metricsEnabled, o.metricsAddress, ()), rfl, ?_⟩
  simp [Row.Reads, Field.Reads, Field.withDefault, Keyed.find?, inverts_text dialect,
    inverts_bool dialect]

theorem NodeKind.inverts_decode : decode.Inverts fun k => .text k.name := by
  intro dialect k
  rw [Json.toDocument, decode, Decoder.variant, Decoder.variantNamed, lookup_name]

theorem NodeConfig.inverts_optional : (Decoder.optional Decoder.text).Inverts encodeOptional := by
  intro dialect setting
  cases setting with
  | none => rw [encodeOptional, Json.toDocument, Decoder.optional]
  | some s =>
    rw [encodeOptional, Json.toDocument, Decoder.optional_of_ne_null Document.noConfusion,
      Decoder.text]
    rfl

theorem NodeConfig.inverts_decode : decode.Inverts encode := by
  intro dialect n
  refine decode_ofMembers (by decide) (by simp)
    ⟨(n.asset, n.kind, n.url, n.urlVariable, n.user, n.password, n.chain, n.contract, ()), rfl, ?_⟩
  simp [Row.Reads, Field.Reads, Field.required, Field.optional, Field.withDefault, Keyed.find?,
    inverts_text dialect, NodeKind.inverts_decode dialect, inverts_optional dialect]

theorem Config.inverts_decode : decode.Inverts encode := by
  intro dialect c
  refine decode_ofMembers (by decide) (by simp)
    ⟨(c.listener, c.timeouts, c.observability, c.nodes, ()), rfl, ?_⟩
  simp [Row.Reads, Field.Reads, Field.withDefault, Keyed.find?, Listener.inverts_decode dialect,
    Timeouts.inverts_decode dialect, Observability.inverts_decode dialect,
    inverts_list NodeConfig.inverts_decode dialect]

/-! ## Printing -/

theorem Listener.portable_encode (l : Listener) : Portable (depth + 1) l.encode := by
  apply Portable.ofMembers
  simp [Portable.text]

theorem Timeouts.portable_encode (t : Timeouts) : Portable (depth + 1) t.encode := by
  have hword : ∀ n : UInt64, Portable depth (Json.nat n.toNat) := Json.portable_word
  apply Portable.ofMembers
  simp [hword]

theorem Observability.portable_encode (o : Observability) : Portable (depth + 1) o.encode := by
  apply Portable.ofMembers
  simp [Portable.text, Portable.bool]

theorem NodeConfig.portable_encodeOptional (setting : Option String) :
    Portable depth (encodeOptional setting) := by
  cases setting with
  | none => exact .null
  | some s => exact .text s

theorem NodeConfig.portable_encode (n : NodeConfig) : Portable (depth + 1) n.encode := by
  apply Portable.ofMembers
  simp [Portable.text, portable_encodeOptional]

theorem Config.portable_encode (c : Config) : Portable (depth + 3) c.encode := by
  have hnodes : Portable (depth + 2) (.array (c.nodes.map (·.encode))) := by
    apply Portable.array
    intro item hitem
    obtain ⟨n, -, rfl⟩ := List.mem_map.1 hitem
    exact n.portable_encode
  apply Portable.ofMembers
  simp [Listener.portable_encode, Timeouts.portable_encode, Observability.portable_encode, hnodes]

end AssetOracle
