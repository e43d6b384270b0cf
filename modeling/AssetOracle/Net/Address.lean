import AssetOracle.Decimal.Fixed
import AssetOracle.Text.Hex

/-!
# Network addresses

Numeric addresses of both families, and socket addresses as a listener is given them: an address
and a port, the address of the longer family in brackets.
-/

namespace AssetOracle.Net

/-- Splits a list at every occurrence of a character. -/
def splitOn (sep : Char) : List Char → List (List Char)
  | [] => [[]]
  | c :: rest =>
    if c = sep then [] :: splitOn sep rest
    else
      match splitOn sep rest with
      | [] => [[c]]
      | first :: more => (c :: first) :: more

/-- One byte of a dotted address: a number below 256 without zeros in front. -/
def octet? (cs : List Char) : Option Nat := do
  let n ← Decimal.ofDigits? cs
  if n < 256 ∧ cs.length = (Nat.toDigits 10 n).length then some n else none

/-- A dotted address of four bytes. -/
def ipv4? (cs : List Char) : Option Nat := do
  match (splitOn '.' cs).mapM octet? with
  | some [a, b, c, d] => some (((a * 256 + b) * 256 + c) * 256 + d)
  | _ => none

/-- One group of a longer address: up to four hexadecimal digits. -/
def group? (cs : List Char) : Option Nat := if cs.length ≤ 4 then Text.Hex.value? cs else none

/-- Groups of sixteen bits; the last two may be written as a dotted address if `dotted` is set. -/
def groups? (dotted : Bool) : List (List Char) → Option (List Nat)
  | [] => some []
  | [last] =>
    match group? last with
    | some g => some [g]
    | none => if dotted then (ipv4? last).map fun n => [n / 65536, n % 65536] else none
  | first :: more => do
    let g ← group? first
    let gs ← groups? dotted more
    return g :: gs

/-- Groups between single colons; nothing at all is no group. -/
def groupText? (dotted : Bool) (cs : List Char) : Option (List Nat) :=
  if cs.isEmpty then some [] else groups? dotted (splitOn ':' cs)

/-- Splits at the first pair of colons. -/
def splitPair : List Char → Option (List Char × List Char)
  | ':' :: ':' :: rest => some ([], rest)
  | c :: rest => (splitPair rest).map fun (before, after) => (c :: before, after)
  | [] => none

/-- An address of eight groups, of which one run of zeros may be written as a pair of colons. -/
def ipv6? (cs : List Char) : Option (List Nat) :=
  match splitPair cs with
  | none => do
    let gs ← groupText? true cs
    if gs.length = 8 then some gs else none
  | some (before, after) => do
    let head ← groupText? false before
    let tail ← groupText? true after
    if head.length + tail.length ≤ 7 then
      some (head ++ List.replicate (8 - head.length - tail.length) 0 ++ tail)
    else none

/-- A port number. -/
def port? (cs : List Char) : Option Nat := do
  let n ← Decimal.ofDigits? cs
  if n < 65536 then some n else none

/-- An address of either family. -/
inductive Ip where
  | v4 (address : Nat)
  | v6 (groups : List Nat) (scope : Nat)
deriving DecidableEq

/-- Where a listener listens. -/
structure SocketAddress where
  ip : Ip
  port : Nat
deriving DecidableEq

/-- Splits at the last occurrence of a character. -/
def splitLast (sep : Char) (cs : List Char) : Option (List Char × List Char) :=
  let reversed := cs.reverse
  match reversed.dropWhile (· ≠ sep) with
  | [] => none
  | _ :: before => some (before.reverse, (reversed.takeWhile (· ≠ sep)).reverse)

/-- An address in brackets, with a numeric scope after a percent sign if it has one. -/
def bracketed? (cs : List Char) : Option Ip := do
  match splitOn '%' cs with
  | [address] =>
    let gs ← ipv6? address
    return .v6 gs 0
  | [address, scope] =>
    let gs ← ipv6? address
    let n ← Decimal.ofDigits? scope
    if n < UInt32.size then some (.v6 gs n) else none
  | _ => none

/-- Reads a socket address. -/
def SocketAddress.parse? (s : String) : Option SocketAddress := do
  let (host, port) ← splitLast ':' s.toList
  let port ← port? port
  match host with
  | '[' :: inner =>
    match splitLast ']' inner with
    | some (address, []) => (bracketed? address).map (⟨·, port⟩)
    | _ => none
  | dotted => (ipv4? dotted).map fun n => ⟨.v4 n, port⟩

end AssetOracle.Net
