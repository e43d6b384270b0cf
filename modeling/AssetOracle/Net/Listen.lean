import AssetOracle.Net.Address

/-!
# Listening

Whether a service can listen at an address. The address is a numeric one or the name of a host,
with a port; what names stand for and which addresses are the machine's own are facts about the
machine.
-/

namespace AssetOracle.Net

/-- What is known of the machine: the addresses of names, and its own addresses. -/
structure Machine where
  resolve : String → List Ip
  isOwn : Ip → Bool

/-- Why a service cannot listen at an address: the text is none, the name is unknown, the address
    is another machine's, or somebody listens there already. -/
inductive ListenFault where
  | malformed
  | unknownName
  | foreign
  | inUse
deriving DecidableEq, Repr

/-- The words for an address at which a service cannot listen. -/
def ListenFault.message : ListenFault → String
  | .malformed => "invalid socket address"
  | .unknownName => "failed to lookup address information: Name or service not known"
  | .foreign => "Cannot assign requested address (os error 99)"
  | .inUse => "Address already in use (os error 98)"

/-- Whether an address stands for all addresses of its family. -/
def Ip.isWildcard : Ip → Bool
  | .v4 address => address = 0
  | .v6 groups _ => groups.all (· = 0)

/-- Whether two listeners get in each other's way. Port zero is a free one every time. -/
def SocketAddress.overlaps (a b : SocketAddress) : Bool :=
  a.port = b.port && a.port ≠ 0 && (a.ip = b.ip || a.ip.isWildcard || b.ip.isWildcard)

/-- A port after the name of a host, which may have a plus sign. -/
def namedPort? : List Char → Option Nat
  | '+' :: cs => port? cs
  | cs => port? cs

/-- A numeric host without brackets. -/
def numericHost? (cs : List Char) : Option Ip :=
  match ipv4? cs with
  | some n => some (.v4 n)
  | none => (ipv6? cs).map (.v6 · 0)

namespace Machine

/-- The first address of the loopback network. -/
def loopback : Ip := .v4 (0x7F000001)

/-- A machine without a network: it has its loopback addresses, and knows their name. -/
def standalone : Machine where
  resolve name := if name = "localhost" then [loopback] else []
  isOwn
    | .v4 address => address / 0x1000000 = 0x7F || address = 0
    | .v6 groups _ => groups.all (· = 0)

/-- The addresses that a text stands for. -/
def addresses (m : Machine) (s : String) : Except ListenFault (List SocketAddress) :=
  match SocketAddress.parse? s with
  | some address => .ok [address]
  | none =>
    match splitLast ':' s.toList with
    | none => .error .malformed
    | some (host, port) =>
      match namedPort? port with
      | none => .error .malformed
      | some port =>
        if host.contains '\x00' then .error .malformed
        else
          let ips :=
            match numericHost? host with
            | some ip => [ip]
            | none => m.resolve (String.ofList host)
          if ips.isEmpty then .error .unknownName else .ok (ips.map (⟨·, port⟩))

/-- Listens at an address of the machine that no other listener is at. -/
def listenAt (m : Machine) (taken : List SocketAddress) (a : SocketAddress) :
    Except ListenFault SocketAddress :=
  if m.isOwn a.ip = false then .error .foreign
  else if taken.any a.overlaps then .error .inUse
  else .ok a

/-- Listens at the first address that can be had; the fault of the last is reported. -/
def listenAtFirst (m : Machine) (taken : List SocketAddress) :
    List SocketAddress → Except ListenFault SocketAddress
  | [] => .error .malformed
  | [a] => m.listenAt taken a
  | a :: more =>
    match m.listenAt taken a with
    | .ok found => .ok found
    | .error _ => m.listenAtFirst taken more

/-- Listens at what a text stands for, beside other listeners. -/
def listen (m : Machine) (taken : List SocketAddress) (s : String) :
    Except ListenFault SocketAddress := do
  let found ← m.addresses s
  m.listenAtFirst taken found

end Machine

end AssetOracle.Net
