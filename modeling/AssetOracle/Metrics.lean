/-!
# Metrics

What the service counts. Everything that happens is recorded as an event; the metrics are
functions of the events so far: a counter is a number of events, a gauge is the last event of its
kind, and a page lists one line per metric in the order of the lines.
-/

namespace AssetOracle

/-- Something that is counted. -/
inductive Metric where
  | request (route : String) (status : Nat)
  | nodeInfo (asset : String) (ok : Bool)
  | slowOperation (operation outcome : String)
deriving DecidableEq, Repr

namespace Metric

/-- How often a request for a route was answered with a status. -/
def requests (events : List Metric) (route : String) (status : Nat) : Nat :=
  events.count (.request route status)

/-- How often the state of a chain was asked for in a listing, with the given success. -/
def nodeInfos (events : List Metric) (asset : String) (ok : Bool) : Nat :=
  events.count (.nodeInfo asset ok)

/-- How often waiting for a slow operation ended in an outcome. -/
def slowOperations (events : List Metric) (operation outcome : String) : Nat :=
  events.count (.slowOperation operation outcome)

/-- Whether a node was up when it was last asked in a listing. -/
def nodeUp (events : List Metric) (asset : String) : Option Bool :=
  events.foldl (fun last event =>
    match event with
    | .nodeInfo a ok => if a = asset then some ok else last
    | _ => last) none

/-- How often a request for a route was timed. -/
def durations (events : List Metric) (route : String) : Nat :=
  events.countP fun event =>
    match event with
    | .request r _ => r = route
    | _ => false

/-- The word for success. -/
def successLabel (ok : Bool) : String := if ok then "ok" else "error"

/-- A metric with its labels. -/
def labelled (name : String) (labels : List (String × String)) (value : Nat) : String :=
  name ++ "\x7b" ++ ",".intercalate (labels.map fun (k, v) => k ++ "=" ++ v) ++ "\x7d " ++
    toString value

/-- The lines that an event has a part in. -/
def linesOf (events : List Metric) : Metric → List String
  | .request route status =>
    [labelled "oracle_requests_total" [("route", route), ("status", toString status)]
        (requests events route status),
      labelled "oracle_request_duration_seconds" [("route", route)] (durations events route)]
  | .nodeInfo asset ok =>
    [labelled "oracle_node_info_total" [("asset", asset), ("outcome", successLabel ok)]
        (nodeInfos events asset ok),
      labelled "oracle_node_up" [("asset", asset)]
        (if nodeUp events asset = some true then 1 else 0)]
  | .slowOperation operation outcome =>
    [labelled "oracle_slow_operation_total" [("operation", operation), ("outcome", outcome)]
      (slowOperations events operation outcome)]

/-- Puts a line in its place in an ascending list without repetitions. -/
def insertLine (line : String) : List String → List String
  | [] => [line]
  | first :: rest =>
    if line < first then line :: first :: rest
    else if line = first then first :: rest
    else first :: insertLine line rest

/-- All metrics, one line each, in ascending order. -/
def page (events : List Metric) : List String :=
  (events.flatMap (linesOf events)).foldl (fun lines line => insertLine line lines) []

end Metric

end AssetOracle
