import AssetOracle.Config.Basic
import AssetOracle.Text.Blank

/-!
# Endpoints

The URL of a node. It may come from the environment, which wins over the configured one if it is
not blank, and it is normalised: trimmed, with a scheme in front, and local if nothing is given.
-/

namespace AssetOracle

/-- The variables of the process. -/
abbrev Environment := String → Option String

/-- The URL of a node that names none. -/
def defaultEndpoint : String := "http://localhost"

/-- Whether a text names one of the two schemes. -/
def hasWebScheme (s : String) : Bool :=
  "http://".toList.isPrefixOf s.toList || "https://".toList.isPrefixOf s.toList

/-- A URL without white space around it and with a scheme. -/
def normalizeEndpoint (raw : Option String) : String :=
  let value := Text.trim (raw.getD "")
  if value.isEmpty then defaultEndpoint
  else if hasWebScheme value then value
  else "http://" ++ value

/-- The URL under which a node is asked. -/
def NodeConfig.endpoint (env : Environment) (node : NodeConfig) : String :=
  let fromEnvironment :=
    (node.urlVariable.bind env).filter fun value => !(Text.trim value).isEmpty
  normalizeEndpoint (fromEnvironment.or node.url)

end AssetOracle
