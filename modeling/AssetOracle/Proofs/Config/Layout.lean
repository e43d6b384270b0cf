import AssetOracle.Config.Basic
import AssetOracle.Proofs.Document.Reading

/-!
# Settings in another layout

The names that are read of a configuration (`Config.shape`). Whatever order its sections and their
settings come in and whatever else is said, the same configuration is decoded
(`Config.follows_decode`); so all that counts of a document is what is kept of it
(`Config.decode_eq_ok_iff_of_keep`).
-/

namespace AssetOracle

/-! ## The names -/

/-- The places of the section on listening. -/
def Listener.shape : Shape := .record [("bind_address", .free)]

/-- The places of the section on waiting. -/
def Timeouts.shape : Shape :=
  .record [("request_secs", .free), ("rpc_secs", .free), ("import_secs", .free)]

/-- The places of the section on reporting. -/
def Observability.shape : Shape :=
  .record [("log_level", .free), ("json_logs", .free), ("metrics_enabled", .free),
    ("metrics_address", .free)]

/-- The places of a node, whose kind is looked at as a whole. -/
def NodeConfig.shape : Shape :=
  .record [("asset_id", .free), ("kind", .whole), ("url", .free), ("url_env", .free),
    ("rpc_user", .free), ("rpc_pass", .free), ("chain", .free), ("contract", .free)]

/-- The places of a configuration. -/
def Config.shape : Shape :=
  .record [("listener", Listener.shape), ("timeouts", Timeouts.shape),
    ("observability", Observability.shape), ("nodes", .list NodeConfig.shape)]

/-! ## The decoders -/

/-- The fields of the section on listening. -/
def Listener.readings : List Reading :=
  [.exact (.withDefault "bind_address" Decoder.text ({} : Listener).address) .free
    Decoder.follows_text]

theorem Listener.follows_decode : Listener.decode.Follows Listener.shape Eq :=
  Decoder.Follows.map_eq <|
    Reading.follows_record_eq readings "ListenerConfig" [] (by decide)
      (by simp [readings, Reading.IsExact, Reading.exact])

/-- The fields of the section on waiting. -/
def Timeouts.readings : List Reading :=
  [.exact (.withDefault "request_secs" Decoder.word ({} : Timeouts).request) .free
      Decoder.follows_word,
    .exact (.withDefault "rpc_secs" Decoder.word ({} : Timeouts).rpc) .free Decoder.follows_word,
    .exact (.withDefault "import_secs" Decoder.word ({} : Timeouts).importing) .free
      Decoder.follows_word]

theorem Timeouts.follows_decode : Timeouts.decode.Follows Timeouts.shape Eq :=
  Decoder.Follows.map_eq <|
    Reading.follows_record_eq readings "TimeoutConfig" [] (by decide)
      (by simp [readings, Reading.IsExact, Reading.exact])

/-- The fields of the section on reporting. -/
def Observability.readings : List Reading :=
  [.exact (.withDefault "log_level" Decoder.text ({} : Observability).logLevel) .free
      Decoder.follows_text,
    .exact (.withDefault "json_logs" Decoder.bool ({} : Observability).jsonLogs) .free
      Decoder.follows_bool,
    .exact (.withDefault "metrics_enabled" Decoder.bool ({} : Observability).metricsEnabled) .free
      Decoder.follows_bool,
    .exact (.withDefault "metrics_address" Decoder.text ({} : Observability).metricsAddress) .free
      Decoder.follows_text]

theorem Observability.follows_decode : Observability.decode.Follows Observability.shape Eq :=
  Decoder.Follows.map_eq <|
    Reading.follows_record_eq readings "ObservabilityConfig" [] (by decide)
      (by simp [readings, Reading.IsExact, Reading.exact])

/-- A field of a node that it may do without. -/
def NodeConfig.optionalReading (name : String) : Reading :=
  .exact (.optional name Decoder.text) .free Decoder.follows_optional_text

/-- The fields of a node. -/
def NodeConfig.readings : List Reading :=
  [.exact (.required "asset_id" Decoder.text) .free Decoder.follows_text,
    .exact (.required "kind" NodeKind.decode) .whole (Decoder.follows_variant NodeKind.names),
    optionalReading "url", optionalReading "url_env", optionalReading "rpc_user",
    optionalReading "rpc_pass", optionalReading "chain", optionalReading "contract"]

theorem NodeConfig.follows_decode : NodeConfig.decode.Follows NodeConfig.shape Eq :=
  Decoder.Follows.map_eq <|
    Reading.follows_record_eq readings "NodeConfig" [] (by decide)
      (by simp [readings, optionalReading, Reading.IsExact, Reading.exact])

namespace Config

/-- The sections. -/
def readings : List Reading :=
  [.exact (.withDefault "listener" Listener.decode {}) Listener.shape Listener.follows_decode,
    .exact (.withDefault "timeouts" Timeouts.decode {}) Timeouts.shape Timeouts.follows_decode,
    .exact (.withDefault "observability" Observability.decode {}) Observability.shape
      Observability.follows_decode,
    .exact (.withDefault "nodes" (Decoder.list NodeConfig.decode) []) (.list NodeConfig.shape)
      NodeConfig.follows_decode.list]

theorem follows_decode : decode.Follows shape Eq :=
  Decoder.Follows.map_eq <|
    Reading.follows_record_eq readings "OracleConfig" [] (by decide)
      (by simp [readings, Reading.IsExact, Reading.exact])

/-- A configuration is decoded from a document without repeated names if and only if it is decoded
    from what is kept of the document. -/
theorem decode_eq_ok_iff_of_keep {dialect : Dialect} {d : Document} {value : Json} {c : Config}
    (hdistinct : d.Distinct) (hkeep : d.keep = .ok value) :
    decode dialect d = .ok c ↔ decode dialect value.toDocument = .ok c := by
  have halike : Document.Alike shape d value.toDocument := Document.alike_of_keep hdistinct hkeep
  constructor
  · intro h
    obtain ⟨c', hc', rfl⟩ := follows_decode halike h
    exact hc'
  · intro h
    obtain ⟨c', hc', rfl⟩ := follows_decode halike.symm h
    exact hc'

end Config

end AssetOracle
