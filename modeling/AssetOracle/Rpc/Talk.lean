import AssetOracle.Policy.Job
import AssetOracle.Rpc.Channel

/-!
# Talks

An operation on nodes as a `Talk`: it makes calls one after the other, each depending on the
answers before it, and ends with a value. A node answers a call with a `Reaction`, which takes
time; what the caller gets is an `Answer`, since it does not wait longer than the limit of the
channel. Whatever carries a call to the node and the reply back may follow redirects, go through a
proxy or connect once more; none of this is part of a talk, where a call is handed over once and
its reply is the one that the caller is given in the end.
-/

namespace AssetOracle.Rpc

/-- A reply over HTTP, the last one if redirects were followed on the way to it. -/
structure Reply where
  status : Nat
  body : List UInt8
deriving DecidableEq

/-- Whether a status means success. -/
def Reply.isSuccess (r : Reply) : Bool := 200 ≤ r.status && r.status < 300

/-- What a node does with a call: it replies, it drops the connection, or it never answers. A node
    that cannot be reached does not even see the call. -/
inductive Reaction where
  | reply (after : Duration) (reply : Reply)
  | drop (after : Duration)
  | unreachable (after : Duration)
  | stall

/-- When a reaction is over, if it ever is. -/
def Reaction.duration? : Reaction → Option Duration
  | .reply after _ => some after
  | .drop after => some after
  | .unreachable after => some after
  | .stall => none

/-- What the caller gets. -/
inductive Answer where
  | reply (reply : Reply)
  | broken
  | late
deriving DecidableEq

/-- Whether a caller with a limit is still waiting after some time. -/
def inTime (limit : Option Duration) (duration : Duration) : Bool :=
  match limit with
  | some limit => duration < limit
  | none => true

/-- What a caller with a limit gets of a reaction, and after what time; `none` is a call that is
    waited for without end. -/
def Reaction.answer (limit : Option Duration) (r : Reaction) : Option (Answer × Duration) :=
  match r.duration? with
  | some duration =>
    if inTime limit duration then
      match r with
      | .reply _ content => some (.reply content, duration)
      | _ => some (.broken, duration)
    else limit.map (.late, ·)
  | none => limit.map (.late, ·)

/-- Calls that depend on the answers to earlier ones, and a value at the end. -/
inductive Talk (α : Type) where
  | done (value : α)
  | ask (ask : Ask) (next : Answer → Talk α)

namespace Talk

variable {α β : Type}

/-- Goes on with the value of a talk. -/
def bind (t : Talk α) (f : α → Talk β) : Talk β :=
  match t with
  | .done value => f value
  | .ask a next => .ask a fun answer => (next answer).bind f

instance : Monad Talk where
  pure := .done
  bind := bind

/-- One call. -/
def call (channel : Channel) (method : String) (params : List Json) : Talk Answer :=
  .ask ⟨channel, ⟨method, params⟩⟩ .done

/-- What nodes do, for the first call, the second, and so on. -/
abbrev Node := Nat → Ask → Reaction

/-- A finished or endless run: the value if there is one, the calls made with the node's reaction
    to each, and the time that was spent. -/
structure Run (α : Type) where
  value : Option α
  calls : List (Ask × Reaction)
  elapsed : Duration

/-- Runs a talk against nodes, of whose reactions the first `made` have been used. -/
def run (node : Node) (made : Nat) : Talk α → Run α
  | .done value => ⟨some value, [], .zero⟩
  | .ask a next =>
    let reaction := node made a
    match reaction.answer a.channel.limit with
    | none => ⟨none, [(a, reaction)], .zero⟩
    | some (answer, duration) =>
      let rest := run node (made + 1) (next answer)
      ⟨rest.value, (a, reaction) :: rest.calls, duration + rest.elapsed⟩

/-- A finished or endless run as a job. -/
def Run.job (run : Run α) : Job α :=
  match run.value with
  | some value => ⟨some run.elapsed, .returned value⟩
  | none => ⟨none, .aborted⟩

/-- The value of a talk whose calls get the given answers. -/
def result (answers : Nat → Ask → Answer) (made : Nat) : Talk α → α
  | .done value => value
  | .ask a next => result answers (made + 1) (next (answers made a))

/-- The calls of a talk whose calls get the given answers. -/
def asks (answers : Nat → Ask → Answer) (made : Nat) : Talk α → List Ask
  | .done _ => []
  | .ask a next => a :: asks answers (made + 1) (next (answers made a))

end Talk

end AssetOracle.Rpc
