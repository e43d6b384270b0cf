import AssetOracle.Chain.Basic

/-!
# Confirmations

Where the numbers of a `Confirmation` come from. A transaction is confirmed once it has been
observed under as many blocks as the threshold asks; a head that lags behind the block of a
transaction counts as no confirmation.
-/

namespace AssetOracle.Confirmation

/-- The number of confirmations that every counting chain asks for. -/
def defaultThreshold : UInt64 := 5

/-- Confirmed by depth. -/
def ofDepth (observed threshold : UInt64) : Confirmation where
  threshold := some threshold
  confirmed := threshold ≤ observed
  observed := some observed

/-- Confirmed by depth, with the default threshold. -/
def ofObserved (observed : UInt64) : Confirmation := ofDepth observed defaultThreshold

/-- Confirmed by the ledger's own word. -/
def ofFinality (confirmed : Bool) : Confirmation where
  threshold := none
  confirmed := confirmed
  observed := none

/-- Confirmed for good. -/
def finalized : Confirmation := ofFinality true

/-- The number of blocks from a transaction's block to the head; none for a transaction that is
    in no block yet or in a block above the head. -/
def blocksBetween (head : UInt64) : (block : Option UInt64) → UInt64
  | none => 0
  | some block => if block ≤ head then head - block else 0

theorem toNat_blocksBetween (head block : UInt64) :
    (blocksBetween head (some block)).toNat = head.toNat - block.toNat := by
  simp only [blocksBetween]
  split
  · rename_i h
    exact UInt64.toNat_sub_of_le _ _ h
  · rename_i h
    have : head.toNat < block.toNat := UInt64.lt_iff_toNat_lt.1 (UInt64.not_le.1 h)
    simp only [UInt64.toNat_zero]
    omega

end AssetOracle.Confirmation
