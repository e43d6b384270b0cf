import AssetOracle.CommandLine.Query
import AssetOracle.Http.Server
import AssetOracle.Service.Launch

/-!
# The program

With `query` as its first word the program asks a running service, and otherwise it is the
service. It has no network of its own: nodes are out of its reach, requests come as lines of
standard input, each a method and a target, and the end of the input is the signal to stop.
-/

namespace AssetOracle.Main

open Service (Launch Running Settings Surroundings)

/-- What is shown to who asks for help with the service. -/
def serviceUsage : String :=
  "Uniform query surface over heterogeneous blockchain nodes\n\n" ++
  "Usage: coins-oracle [OPTIONS]\n\nOptions:\n" ++
  "  -c, --config <CONFIG>  Path to the TOML configuration file\n" ++
  "  -b, --bind <BIND>      Override the listener bind address\n" ++
  "  -h, --help             Print help\n"

/-- What is shown to who asks for help with queries. -/
def queryUsage : String :=
  "Query a running coins oracle\n\nUsage: oracle-cli [OPTIONS] <COMMAND>\n\nCommands:\n" ++
  "  nodes    List registered nodes\n  info     Show chain state of one node\n" ++
  "  balance  Show the balance of an address\n  tx       Look up a transaction\n" ++
  "  import   Ask the node to start tracking an address\n  help     Print this message\n\n" ++
  "Options:\n  -u, --url <URL>  [default: http://localhost:8080]\n  -h, --help       Print help\n"

/-- A line of the log. -/
def logLine (json : Bool) (e : Log.Event) : String :=
  if json then
    (Json.ofMembers [("level", .text e.level.name),
      ("fields", .ofMembers [("message", .text e.message)]),
      ("target", .text e.source.target)]).compact
  else e.level.name ++ " " ++ e.source.target ++ ": " ++ e.message

/-- A response as it is sent. -/
def responseText (served : Http.Served) : String :=
  match served.response with
  | none => ""
  | some r =>
    let header (name : String) : Option String → String
      | some value => name ++ ": " ++ value ++ "\n"
      | none => ""
    Http.statusText r.status ++ "\n" ++ header "content-type" r.contentType ++
      header "allow" r.allow ++ header "x-request-id" (some served.id) ++ "\n" ++
      r.content.render ++ "\n"

/-- The request on a line of input. -/
def requestOfLine (line : String) : Http.Request :=
  let cs := Text.trimChars line.toList
  let name := String.ofList (cs.takeWhile (· ≠ ' '))
  let target := String.ofList (Text.trimChars (cs.dropWhile (· ≠ ' ')))
  let (path, query) := Http.Request.splitTarget target
  { method := .ofName name, path, query }

/-- The bytes of a file. -/
def readContent (path : String) : IO (Except FileFault (List UInt8)) := do
  try
    let bytes ← IO.FS.readBinFile path
    return .ok bytes.toList
  catch
    | .noFileOrDirectory .. => return .error .notFound
    | .inappropriateType .. => return .error .isDirectory
    | e => return .error (.other (toString e))

/-- The part of the environment that some variables make up. -/
def environmentOf (names : List String) : IO Environment := do
  let pairs ← names.filterMapM fun name => do
    return (← IO.getEnv name).map (name, ·)
  return fun name => pairs.lookup name

/-- The variables that the configuration in a file names. -/
def variablesOf (content : Except FileFault (List UInt8)) : List String :=
  match content with
  | .error _ => []
  | .ok bytes =>
    match (Text.Utf8.decode? bytes).map Config.ofToml? with
    | some (.ok c) => c.nodes.filterMap (·.urlVariable)
    | _ => []

/-- What the service finds around it. -/
def surroundings (words : List String) : IO Surroundings := do
  let content ←
    match (Settings.read words).toOption.bind (·.file) with
    | some path => readContent path
    | none => pure (.error .notFound)
  let environment ← environmentOf (Service.filterVariable :: variablesOf content)
  return ⟨Net.Machine.standalone, environment, fun _ => content⟩

/-- A fresh id for a request. -/
def freshId : IO String := do
  let digits (n : Nat) : IO String := do
    let ds ← (List.replicate n ()).mapM fun _ => IO.rand 0 15
    return String.ofList (ds.map Text.Hex.digit)
  let parts ← [8, 4, 4, 4, 12].mapM digits
  return "-".intercalate parts

/-- Serves the requests on the lines of the input. -/
partial def serve (server : Http.Server) (input output : IO.FS.Stream) : IO Unit := do
  let line ← input.getLine
  if line.isEmpty then return
  let served := server.serve (← freshId) (requestOfLine line)
  output.putStr (responseText served)
  output.flush
  serve server input output

/-- Runs the service. -/
def runService (words : List String) : IO Nat := do
  let launched := Service.launch (← surroundings words) words
  let output ← IO.getStdout
  let printLog (json : Bool) (log : List Log.Event) : IO Unit :=
    log.forM fun e => output.putStr (logLine json e ++ "\n")
  match launched with
  | .stopped .help => output.putStr serviceUsage
  | .stopped .misuse => IO.eprint serviceUsage
  | .failed json log reason =>
    printLog json log
    IO.eprintln ("Error: " ++ reason)
  | .serving running =>
    let json := running.config.observability.jsonLogs
    printLog json running.log
    let clients := running.registry.map fun a => a.client fun _ _ => .unreachable .zero
    let limit := Duration.ofSeconds running.config.timeouts.request.toNat
    serve ⟨clients, limit⟩ (← IO.getStdin) output
    printLog json running.closing
  return launched.exit

/-- Asks a service. -/
def runQuery (words : List String) : IO Nat := do
  let report := CommandLine.Report.ofWords queryUsage (fun _ _ => none) words
  IO.print report.output
  IO.eprint report.complaint
  return report.exit

end AssetOracle.Main

/-- Asks a running service if the first word is `query`, and is the service otherwise. -/
def main (words : List String) : IO UInt32 := do
  let exit ←
    match words with
    | "query" :: rest => AssetOracle.Main.runQuery rest
    | _ => AssetOracle.Main.runService words
  return exit.toUInt32
