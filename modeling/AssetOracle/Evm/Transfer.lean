import AssetOracle.Evm.Bytes

/-!
# Token calls

The calls of a token contract that this library makes or reads: asking for a balance, and the two
calls that move tokens. A call is a selector of four bytes and arguments of thirty-two bytes each;
an address is the lower twenty bytes of its argument.
-/

namespace AssetOracle.Evm

/-- The number that bytes stand for, the most significant first. -/
def natOfBytes (bytes : List UInt8) : Nat := bytes.foldl (fun acc b => acc * 256 + b.toNat) 0

/-- The lowest `size` bytes of a number, the most significant first. -/
def bytesOfNat : (size : Nat) → Nat → List UInt8
  | 0, _ => []
  | size + 1, n => bytesOfNat size (n / 256) ++ [UInt8.ofNat (n % 256)]

/-- The selector of the call that moves the caller's tokens. -/
def transferSelector : List UInt8 := [0xA9, 0x05, 0x9C, 0xBB]

/-- The selector of the call that moves another account's tokens. -/
def transferFromSelector : List UInt8 := [0x23, 0xB8, 0x72, 0xDD]

/-- The selector of the call that asks for a balance. -/
def balanceSelector : List UInt8 := [0x70, 0xA0, 0x82, 0x31]

/-- An address as an argument: twelve zeros come first. -/
def addressWord (address : Address) : List UInt8 := List.replicate 12 0 ++ address.bytes

/-- An amount as an argument. -/
def amountWord (amount : Nat) : List UInt8 := bytesOfNat 32 amount

/-- The call that asks for the balance of an account. -/
def balanceCall (account : Address) : List UInt8 := balanceSelector ++ addressWord account

/-- The call that moves the caller's tokens. -/
def transferCall (recipient : Address) (amount : Nat) : List UInt8 :=
  transferSelector ++ addressWord recipient ++ amountWord amount

/-- The call that moves the tokens of `owner`. -/
def transferFromCall (owner recipient : Address) (amount : Nat) : List UInt8 :=
  transferFromSelector ++ addressWord owner ++ addressWord recipient ++ amountWord amount

/-- A movement of tokens. -/
structure Transfer where
  sender : Address
  recipient : Address
  amount : Nat
deriving DecidableEq

/-- The argument at a position of a call without its selector. -/
def argument (arguments : List UInt8) (position : Nat) : List UInt8 :=
  (arguments.drop (32 * position)).take 32

/-- The address in an argument; the upper twelve bytes do not matter. -/
def addressArgument (arguments : List UInt8) (position : Nat) : Address :=
  FixedBytes.ofList 20 ((argument arguments position).drop 12)

/-- The amount in an argument. -/
def amountArgument (arguments : List UInt8) (position : Nat) : Nat :=
  natOfBytes (argument arguments position)

/-- The movement of tokens that a call of `signer` asks for. Bytes after the last argument do not
    matter. -/
def Transfer.ofCall? (signer : Address) (input : List UInt8) : Option Transfer :=
  let selector := input.take 4
  let arguments := input.drop 4
  if selector = transferSelector ∧ 64 ≤ arguments.length then
    some ⟨signer, addressArgument arguments 0, amountArgument arguments 1⟩
  else if selector = transferFromSelector ∧ 96 ≤ arguments.length then
    some ⟨addressArgument arguments 0, addressArgument arguments 1, amountArgument arguments 2⟩
  else none

end AssetOracle.Evm
