import AssetOracle.Http.Request
import AssetOracle.Net.Address

/-!
# Targets

What a request is for, read from its path. Paths are compared segment by segment as they are
written; a segment in the place of a parameter may be empty unless it ends the path. Escapes in
parameters are replaced afterwards, and the result has to be UTF-8.
-/

namespace AssetOracle.Http

/-- What a request is for. -/
inductive Target where
  | ping
  | nodes
  | info (asset : String)
  | balance (asset address : String)
  | importing (asset : String)
  | transaction (asset id : String)
deriving DecidableEq, Repr

namespace Target

/-- The target that the segments of a path name. -/
def ofSegments : List String → Option Target
  | ["ping"] => some .ping
  | ["nodes"] => some .nodes
  | ["nodes", asset, "info"] => some (.info asset)
  | ["nodes", asset, "addrs", "import"] => some (.importing asset)
  | ["nodes", asset, "addrs", address, "balance"] => some (.balance asset address)
  | ["nodes", asset, "txs", id] => if id.isEmpty then none else some (.transaction asset id)
  | _ => none

/-- The target that a path names, with its parameters as they are written. -/
def ofPath? (path : String) : Option Target :=
  match (Net.splitOn '/' path.toList).map String.ofList with
  | "" :: segments => ofSegments segments
  | _ => none

/-- The path with names in the places of parameters, by which requests are counted. -/
def template : Target → String
  | .ping => "/ping"
  | .nodes => "/nodes"
  | .info _ => "/nodes/\x7basset_id\x7d/info"
  | .balance .. => "/nodes/\x7basset_id\x7d/addrs/\x7baddr\x7d/balance"
  | .importing _ => "/nodes/\x7basset_id\x7d/addrs/import"
  | .transaction .. => "/nodes/\x7basset_id\x7d/txs/\x7btx_hash\x7d"

/-- A parameter without its escapes; the error tells its name. -/
def parameter (name raw : String) : Except String String :=
  match Text.Utf8.decode? (Text.Percent.decode raw) with
  | some text => .ok text
  | none => .error ("Invalid URL: Invalid UTF-8 in `" ++ name ++ "`")

/-- The target with its parameters without their escapes. -/
def decode : Target → Except String Target
  | .ping => .ok .ping
  | .nodes => .ok .nodes
  | .info asset => return .info (← parameter "asset_id" asset)
  | .balance asset address =>
    return .balance (← parameter "asset_id" asset) (← parameter "addr" address)
  | .importing asset => return .importing (← parameter "asset_id" asset)
  | .transaction asset id =>
    return .transaction (← parameter "asset_id" asset) (← parameter "tx_hash" id)

/-- Whether a target takes requests of a method. -/
def accepts : Target → Method → Bool
  | .importing _, .post => true
  | .importing _, _ => false
  | _, .get => true
  | _, .head => true
  | _, _ => false

/-- The methods that a target takes, as they are told to who asks in another way. -/
def allow : Target → String
  | .importing _ => "POST"
  | _ => "GET,HEAD"

end Target

end AssetOracle.Http
