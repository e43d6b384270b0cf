/-!
# Shutdown signals

A broadcast by which the parts of the service are told to stop. A channel keeps its last signal:
a receiver that was too slow learns how many it has missed and then gets the last one. A signal
that nobody listens for is not kept. Handles of a channel send, receivers listen; a channel is
closed when its last handle is gone.
-/

namespace AssetOracle.Shutdown

/-- What a receiver finds. -/
inductive Received where
  | signal
  | empty
  | closed
  | lagged (missed : Nat)
deriving DecidableEq, Repr

/-- What a receiver finds that has seen `position` of the `sent` signals of a channel, and how many
    it has seen then. -/
def receive (isOpen : Bool) (sent position : Nat) : Received × Nat :=
  if sent ≤ position then (if isOpen then .empty else .closed, position)
  else if position + 1 < sent then (.lagged (sent - 1 - position), sent - 1)
  else (.signal, position + 1)

/-- A receiver: its channel, and how many signals of it have passed. -/
structure Receiver where
  channel : Nat
  position : Nat
deriving DecidableEq, Repr

/-- All channels by how many signals were sent on them, the channel of every handle, and the
    receivers; dropped ones keep their places. -/
structure State where
  sent : List Nat
  handles : List (Option Nat)
  receivers : List (Option Receiver)
deriving DecidableEq, Repr

/-- One channel with one handle. -/
def start : State := ⟨[0], [some 0], []⟩

namespace State

/-- The channel of a handle that was not dropped. -/
def channelOf (s : State) (handle : Nat) : Option Nat := s.handles[handle]?.join

/-- The number of signals sent on a channel. -/
def sentOn (s : State) (channel : Nat) : Nat := s.sent[channel]?.getD 0

/-- How many receivers listen on a channel. -/
def listeners (s : State) (channel : Nat) : Nat :=
  s.receivers.countP fun r => r.any (·.channel = channel)

/-- Whether a channel has a handle. -/
def isOpen (s : State) (channel : Nat) : Bool := s.handles.contains (some channel)

/-- A handle of a new channel. -/
def create (s : State) : State :=
  { s with sent := s.sent ++ [0], handles := s.handles ++ [some s.sent.length] }

/-- Another handle of a handle's channel. -/
def clone (s : State) (handle : Nat) : State :=
  { s with handles := s.handles ++ [s.channelOf handle] }

/-- A receiver that gets the signals sent from now on. -/
def subscribe (s : State) (handle : Nat) : State :=
  { s with receivers := s.receivers ++
      [(s.channelOf handle).map fun channel => ⟨channel, s.sentOn channel⟩] }

/-- Sends a signal and says how many receivers it reaches. -/
def trigger (s : State) (handle : Nat) : Option Nat × State :=
  match s.channelOf handle with
  | none => (none, s)
  | some channel =>
    let reached := s.listeners channel
    if reached = 0 then (some 0, s)
    else (some reached, { s with sent := s.sent.modify channel (· + 1) })

/-- Drops a handle and says whether it was there. -/
def dropHandle (s : State) (handle : Nat) : Bool × State :=
  ((s.channelOf handle).isSome, { s with handles := s.handles.set handle none })

/-- Drops a receiver and says whether it was there. -/
def dropReceiver (s : State) (receiver : Nat) : Bool × State :=
  (s.receivers[receiver]?.join.isSome, { s with receivers := s.receivers.set receiver none })

/-- What a receiver finds; nothing if it was dropped. -/
def tryReceive (s : State) (receiver : Nat) : Option Received × State :=
  match s.receivers[receiver]?.join with
  | none => (none, s)
  | some r =>
    let (found, position) := receive (s.isOpen r.channel) (s.sentOn r.channel) r.position
    (some found, { s with receivers := s.receivers.set receiver (some { r with position }) })

/-- How many receivers listen on the channel of every handle. -/
def receiverCounts (s : State) : List (Option Nat) :=
  s.handles.map fun handle => handle.map s.listeners

end State

end AssetOracle.Shutdown
