import AssetOracle.Net.Address
import AssetOracle.Url.Domain

/-!
# Hosts

The host part of a URL: a domain name, or an address of either family. A name that ends in a
number has to be an address, whose parts may be decimal, octal or hexadecimal and of which the
last fills all bytes that are left.
-/

namespace AssetOracle

open Net (splitOn)

/-- A host. -/
inductive Host where
  | domain (name : String)
  | ipv4 (address : Nat)
  | ipv6 (groups : List Nat)
deriving DecidableEq

namespace Host

/-- A number in a base, `none` if a character is no digit of it. -/
def numberIn (base : Nat) (cs : List Char) : Option Nat :=
  cs.foldlM (fun acc c => do
    let d ← Text.Hex.digit? c
    if d < base then some (acc * base + d) else none) 0

/-- One part of a numeric host: `0x` starts a hexadecimal number, any other zero an octal one. -/
def numericPart? : List Char → Option Nat
  | [] => none
  | '0' :: 'x' :: rest => numberIn 16 rest
  | '0' :: 'X' :: rest => numberIn 16 rest
  | '0' :: d :: rest => numberIn 8 (d :: rest)
  | cs => numberIn 10 cs

/-- The labels of a name, without the empty one after a final dot. -/
def labels (name : List Char) : List (List Char) :=
  let parts := splitOn '.' name
  if parts.getLast? = some [] ∧ 1 < parts.length then parts.dropLast else parts

/-- Whether the last label makes the name a numeric address. -/
def endsInNumber (name : List Char) : Bool :=
  match (labels name).getLast? with
  | none => false
  | some last => (!last.isEmpty && last.all Char.isDigit) || (numericPart? last).isSome

/-- A numeric address: the last part fills the bytes that the others leave. -/
def numericAddress? (name : List Char) : Option Nat := do
  let parts ← (labels name).mapM numericPart?
  let last ← parts.getLast?
  let front := parts.dropLast
  if 3 < front.length ∨ front.any (255 < ·) ∨ Nat.pow 256 (4 - front.length) ≤ last then none
  else some (front.foldr (fun n acc => acc / 256 + n * 0x1000000) 0 + last)

/-- The host of a URL of a scheme that is known to have one. -/
def parse? (cs : List Char) : Option Host :=
  match cs with
  | '[' :: inner =>
    if inner.getLast? = some ']' then (Net.ipv6? inner.dropLast).map .ipv6 else none
  | _ => do
    let name ← Url.Domain.toAscii? (← Text.Utf8.decode? (Text.Percent.decode (String.ofList cs)))
    if name.isEmpty then none
    else if endsInNumber name then (numericAddress? name).map .ipv4
    else some (.domain (String.ofList name))

/-- Whether a character may not stand in a host of a scheme that is not known. -/
def forbidden (c : Char) : Bool :=
  c.toNat = 0 || ['\t', '\n', '\r', ' ', '#', '/', ':', '<', '>', '?', '@', '[', '\\', ']', '^',
    '|'].contains c

/-- Whether a character is a control character. -/
def isControl (c : Char) : Bool := c.toNat < 0x20 || c.toNat = 0x7F

/-- The host of a URL of any other scheme. -/
def parseOpaque? (cs : List Char) : Option Host :=
  match cs with
  | '[' :: inner =>
    if inner.getLast? = some ']' then (Net.ipv6? inner.dropLast).map .ipv6 else none
  | _ =>
    if cs.any forbidden then none
    else some (.domain (String.ofList (Text.Percent.encodeChars isControl cs)))

/-- The number of zeros at the beginning of a list. -/
def zeroRun (gs : List Nat) : Nat := (gs.takeWhile (· = 0)).length

/-- Where the first longest run of zeros of a list starts, and its length. -/
def longestRun (gs : List Nat) : Nat × Nat :=
  (List.range gs.length).foldl
    (fun best i => if best.2 < zeroRun (gs.drop i) then (i, zeroRun (gs.drop i)) else best) (0, 0)

/-- Groups in lower-case hexadecimal between colons. -/
def groupText (gs : List Nat) : String :=
  ":".intercalate (gs.map fun g => String.ofList (Text.Hex.ofNat g))

/-- The text of a host. The first longest run of two or more zero groups is left out. -/
def render : Host → String
  | .domain name => name
  | .ipv4 n =>
    let parts := [n / 0x1000000, n / 0x10000, n / 0x100, n]
    ".".intercalate (parts.map fun part => toString (part % 256))
  | .ipv6 gs =>
    let (start, length) := longestRun gs
    if length < 2 then "[" ++ groupText gs ++ "]"
    else
      "[" ++ groupText (gs.take start) ++ "::" ++ groupText (gs.drop (start + length)) ++ "]"

end Host

end AssetOracle
