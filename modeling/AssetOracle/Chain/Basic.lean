/-!
# Chain data

What the oracle reports of any chain, in one shape for all of them: its state, the balances of an
address, and a transaction with how far it is confirmed.
-/

namespace AssetOracle

/-- The head of a chain. -/
structure ChainState where
  chain : String
  height : UInt64
  blockHash : String
deriving DecidableEq, Repr

/-- An amount of one asset, as a decimal text. -/
structure AssetBalance where
  asset : String
  balance : String
deriving DecidableEq, Repr

/-- What an address holds. -/
structure Balance where
  assets : List AssetBalance
deriving DecidableEq, Repr

/-- The balance of an address that holds one asset. -/
def Balance.single (asset balance : String) : Balance := ⟨[⟨asset, balance⟩]⟩

/-- How far a transaction is confirmed. Chains that count blocks give the threshold and the
    number observed; chains with immediate finality give neither. -/
structure Confirmation where
  threshold : Option UInt64
  confirmed : Bool
  observed : Option UInt64
deriving DecidableEq, Repr

/-- A transfer of value. -/
structure Transaction where
  id : String
  sender : String
  recipient : String
  value : String
  confirmation : Confirmation
deriving DecidableEq, Repr

end AssetOracle
