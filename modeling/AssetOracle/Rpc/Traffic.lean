import AssetOracle.Rpc.Talk

/-!
# Traffic

Many operations at a time on channels that they share. Each goes through its talk: for a call it
takes a number from the channel, sends the call under this number, waits for the answer and goes
on. The operations take these steps in any order, so calls may be sent in another order than that
of their numbers. An operation may be given up, but not between taking a number and sending the
call, where it never waits. A call is sent when it is handed over to whatever carries requests,
whether or not it arrives. Numbers are words of 64 bits, which start over after the last.
-/

namespace AssetOracle.Rpc

/-- A talk of which only the calls matter. -/
def Talk.silent {α : Type} (t : Talk α) : Talk Unit := t.bind fun _ => .done ()

/-- How far an operation has come: it goes on with a talk, it has a number for its next call, it
    has sent the call, or nobody waits for it any longer. -/
inductive Traffic.Stage where
  | ready (talk : Talk Unit)
  | numbered (ask : Ask) (id : UInt64) (next : Answer → Talk Unit)
  | waiting (next : Answer → Talk Unit)
  | abandoned

/-- An operation and how far it has come. -/
structure Traffic.Thread (ι : Type) where
  operation : ι
  stage : Traffic.Stage

/-- A call with its number, and the place of the thread that makes it. -/
structure Traffic.Numbered (ι : Type) where
  thread : Nat
  operation : ι
  ask : Ask
  id : UInt64

/-- All threads in the order in which they began, how many numbers each channel has given out, the
    calls in the order in which they got their numbers, and in the order in which they were
    sent. -/
structure Traffic (ι : Type) where
  taken : Nat → UInt64 := fun _ => 0
  threads : List (Traffic.Thread ι) := []
  numbered : List (Traffic.Numbered ι) := []
  sent : List (Traffic.Numbered ι) := []

namespace Traffic

variable {ι : Type}

/-- A call as it is sent. -/
def Numbered.request (c : Numbered ι) : Request := c.ask.request c.id.toNat

/-- What may happen. Threads are known by their places in the order in which they began. -/
inductive Event (ι : Type) where
  | began (operation : ι)
  | numbered (thread : Nat)
  | sent (thread : Nat)
  | answered (thread : Nat) (answer : Answer)
  | abandoned (thread : Nat)

/-- The number that the next call on a channel gets. -/
def fresh (t : Traffic ι) (channel : Channel) : UInt64 :=
  UInt64.ofNat channel.protocol.firstId + t.taken channel.number

/-- The traffic with a thread at another stage. -/
def move (t : Traffic ι) (thread : Nat) (operation : ι) (stage : Stage) : Traffic ι :=
  { t with threads := t.threads.set thread ⟨operation, stage⟩ }

/-- The traffic after a thread has taken a number for a call. -/
def number (t : Traffic ι) (thread : Nat) (operation : ι) (ask : Ask)
    (next : Answer → Talk Unit) : Traffic ι :=
  let id := t.fresh ask.channel
  { t.move thread operation (.numbered ask id next) with
    taken := fun n => if n = ask.channel.number then t.taken n + 1 else t.taken n
    numbered := t.numbered ++ [⟨thread, operation, ask, id⟩] }

/-- The traffic after an event, if the event can happen; `talkOf` says what operations do. -/
def step (talkOf : ι → Talk Unit) (t : Traffic ι) : Event ι → Option (Traffic ι)
  | .began operation =>
    some { t with threads := t.threads ++ [⟨operation, .ready (talkOf operation)⟩] }
  | .numbered thread =>
    match t.threads[thread]? with
    | some ⟨operation, .ready (.ask ask next)⟩ => some (t.number thread operation ask next)
    | _ => none
  | .sent thread =>
    match t.threads[thread]? with
    | some ⟨operation, .numbered ask id next⟩ =>
      some { t.move thread operation (.waiting next) with
        sent := t.sent ++ [⟨thread, operation, ask, id⟩] }
    | _ => none
  | .answered thread answer =>
    match t.threads[thread]? with
    | some ⟨operation, .waiting next⟩ => some (t.move thread operation (.ready (next answer)))
    | _ => none
  | .abandoned thread =>
    match t.threads[thread]? with
    | some ⟨operation, .ready _⟩ => some (t.move thread operation .abandoned)
    | some ⟨operation, .waiting _⟩ => some (t.move thread operation .abandoned)
    | _ => none

/-- The traffic after a history of events, if it can happen. -/
def run (talkOf : ι → Talk Unit) (t : Traffic ι) (history : List (Event ι)) :
    Option (Traffic ι) := history.foldlM (step talkOf) t

/-- The call that a thread has a number for and has not sent. -/
def Thread.pending? (thread : Thread ι) (place : Nat) : Option (Numbered ι) :=
  match thread.stage with
  | .numbered ask id _ => some ⟨place, thread.operation, ask, id⟩
  | _ => none

/-- The calls that have numbers and have not been sent. -/
def pending (t : Traffic ι) : List (Numbered ι) :=
  t.threads.zipIdx.filterMap fun (thread, place) => thread.pending? place

end Traffic

end AssetOracle.Rpc
