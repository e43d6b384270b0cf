import AssetOracle.Config.Validation
import AssetOracle.Rpc.Failure
import AssetOracle.Text.Utf8
import AssetOracle.Toml.Reader

/-!
# Loading a configuration

From a file to a configuration that keeps all rules, and what can go wrong on the way: the file
cannot be read, it is no configuration file, it has the wrong shape, or it breaks rules.
-/

namespace AssetOracle

/-- Why a file cannot be read. -/
inductive FileFault where
  | notFound
  | isDirectory
  | invalidText
  | other (reason : String)
deriving DecidableEq, Repr

/-- The words for a file that cannot be read. -/
def FileFault.message : FileFault → String
  | .notFound => "No such file or directory (os error 2)"
  | .isDirectory => "Is a directory (os error 21)"
  | .invalidText => "stream did not contain valid UTF-8"
  | .other reason => reason

/-- Why there is no configuration. -/
inductive ConfigError where
  | file (fault : FileFault)
  | malformed
  | misfit (error : DecodeError)
  | invalid (violations : List Violation)

/-- The words for a missing configuration. -/
def ConfigError.message : ConfigError → String
  | .file fault => "IO error: " ++ fault.message
  | .malformed => "Parse error: TOML parse error"
  | .misfit error => "Parse error: " ++ error.message .toml
  | .invalid violations =>
    "Validation failed: " ++ ", ".intercalate (violations.map Violation.message)

namespace Config

/-- Reads a configuration without checking its rules. -/
def ofToml? (text : String) : Except ConfigError Config :=
  match Toml.read? text with
  | none => .error .malformed
  | some d => (decode .toml d).mapError .misfit

/-- Reads a configuration that keeps all rules. -/
def parse (env : Environment) (text : String) : Except ConfigError Config := do
  let c ← ofToml? text
  match c.violations env with
  | [] => return c
  | violations => throw (.invalid violations)

/-- Reads the content of a file. -/
def load (env : Environment) (content : Except FileFault (List UInt8)) :
    Except ConfigError Config := do
  let bytes ← content.mapError .file
  match Text.Utf8.decode? bytes with
  | some text => parse env text
  | none => throw (.file .invalidText)

end Config

end AssetOracle
