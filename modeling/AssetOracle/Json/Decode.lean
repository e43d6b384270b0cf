import AssetOracle.Document.Decoder
import AssetOracle.Json.Reader

/-!
# Decoding JSON

A decoder applied to JSON text, in which nothing may follow the value, and to a JSON value.
-/

namespace AssetOracle.Json

variable {α : Type}

/-- Decodes JSON text. -/
def Source.decode (source : Source) (decoder : Decoder α) : Except DecodeError α := do
  let value ← decoder .jsonText source.root
  if source.trailing then throw (.unreadable .malformed) else return value

/-- Decodes a value. -/
def decode (value : Json) (decoder : Decoder α) : Except DecodeError α :=
  decoder .jsonValue value.toDocument

end AssetOracle.Json
