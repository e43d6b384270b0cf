import AssetOracle.Evm.Transfer
import Mathlib.Data.Nat.Digits.Lemmas

/-!
# Calls that move tokens

Which calls are read as movements of tokens, and as which: those that begin with one of the two
selectors and have all of its arguments, whatever the unused bytes of an argument are and whatever
follows (`Moves`, `ofCall?_eq_some_iff`). So the calls that ask for a movement are read as this
movement, and no other call is read as one (`transfer_of_call`).
-/

namespace AssetOracle.Evm

variable {bytes word rest arguments input pad pad' l : List UInt8} {b : UInt8}
  {size n position amount : Nat} {signer owner recipient account : Address} {t : Transfer}

/-! ## Numbers -/

theorem natOfBytes_append_singleton :
    natOfBytes (bytes ++ [b]) = natOfBytes bytes * 256 + b.toNat := by
  rw [natOfBytes, List.foldl_append]
  rfl

/-- The bytes of a number are its digits to the base 256, the most significant first. -/
theorem natOfBytes_eq_ofDigits (bytes : List UInt8) :
    natOfBytes bytes = Nat.ofDigits 256 (bytes.reverse.map UInt8.toNat) := by
  induction bytes using List.reverseRecOn with
  | nil => rfl
  | append_singleton bytes b ih =>
    rw [natOfBytes_append_singleton, List.reverse_append, List.reverse_singleton,
      List.singleton_append, List.map_cons, Nat.ofDigits_cons, ← ih]
    omega

theorem natOfBytes_lt (bytes : List UInt8) : natOfBytes bytes < 256 ^ bytes.length := by
  have hdigits : ∀ d ∈ bytes.reverse.map UInt8.toNat, d < 256 := by
    intro d hd
    obtain ⟨b, -, rfl⟩ := List.mem_map.1 hd
    exact b.toNat_lt
  have hlt := Nat.ofDigits_lt_base_pow_length (b := 256) (by decide) hdigits
  rwa [← natOfBytes_eq_ofDigits, List.length_map, List.length_reverse] at hlt

theorem length_bytesOfNat (size n : Nat) : (bytesOfNat size n).length = size := by
  induction size generalizing n with
  | zero => rfl
  | succ size ih => rw [bytesOfNat, List.length_append, ih, List.length_singleton]

/-- A number that fits is read back from its bytes. -/
theorem natOfBytes_bytesOfNat (h : n < 256 ^ size) : natOfBytes (bytesOfNat size n) = n := by
  induction size generalizing n with
  | zero =>
    have hzero : n = 0 := Nat.lt_one_iff.1 h
    rw [hzero]
    rfl
  | succ size ih =>
    have hdiv : n / 256 < 256 ^ size := by
      rw [Nat.pow_succ] at h
      exact Nat.div_lt_of_lt_mul (Nat.mul_comm _ _ ▸ h)
    have hlow : (UInt8.ofNat (n % 256)).toNat = n % 256 := by
      rw [UInt8.toNat_ofNat']
      omega
    rw [bytesOfNat, natOfBytes_append_singleton, ih hdiv, hlow]
    omega

/-! ## Arguments -/

theorem argument_zero (h : word.length = 32) : argument (word ++ rest) 0 = word := by
  rw [argument, Nat.mul_zero, List.drop_zero, ← h, List.take_left]

theorem argument_succ (h : word.length = 32) :
    argument (word ++ rest) (position + 1) = argument rest position := by
  have hskip : 32 * (position + 1) = word.length + 32 * position := by omega
  rw [argument, argument, hskip, List.drop_length_add_append]

theorem FixedBytes.ofList_bytes (x : FixedBytes size) : FixedBytes.ofList size x.bytes = x := by
  obtain ⟨bytes, rfl⟩ := x
  simp only [FixedBytes.ofList, List.take_left]

/-- The upper twelve bytes of an argument do not count for an address. -/
theorem addressArgument_zero (h : pad.length = 12) :
    addressArgument (pad ++ recipient.bytes ++ rest) 0 = recipient := by
  have hword : (pad ++ recipient.bytes).length = 32 := by
    rw [List.length_append, h, recipient.length_bytes]
  rw [addressArgument, argument_zero hword, ← h, List.drop_left, FixedBytes.ofList_bytes]

theorem addressArgument_succ (h : word.length = 32) :
    addressArgument (word ++ rest) (position + 1) = addressArgument rest position := by
  rw [addressArgument, argument_succ h, addressArgument]

/-- A list that is long enough begins with an argument. -/
theorem exists_word (h : 32 ≤ l.length) : ∃ word rest, word.length = 32 ∧ l = word ++ rest :=
  ⟨l.take 32, l.drop 32, List.length_take_of_le h, (List.take_append_drop 32 l).symm⟩

/-- Every argument has an address at its end. -/
theorem exists_address (h : 32 ≤ l.length) :
    ∃ (pad : List UInt8) (account : Address) (rest : List UInt8), pad.length = 12 ∧
      l = pad ++ account.bytes ++ rest := by
  obtain ⟨word, rest, hword, rfl⟩ := exists_word h
  have haddress : (word.drop 12).length = 20 := by
    rw [List.length_drop, hword]
  refine ⟨word.take 12, ⟨word.drop 12, haddress⟩, rest, List.length_take_of_le (by omega), ?_⟩
  rw [List.take_append_drop]

/-! ## Calls -/

theorem ofCall?_transfer : Transfer.ofCall? signer (transferSelector ++ arguments) =
    if 64 ≤ arguments.length then
      some ⟨signer, addressArgument arguments 0, amountArgument arguments 1⟩
    else none := by
  have hselector : (transferSelector ++ arguments).take 4 = transferSelector := rfl
  have harguments : (transferSelector ++ arguments).drop 4 = arguments := rfl
  have hother : transferSelector ≠ transferFromSelector := by decide
  simp only [Transfer.ofCall?, hselector, harguments, hother, true_and, false_and, if_false]

theorem ofCall?_transferFrom : Transfer.ofCall? signer (transferFromSelector ++ arguments) =
    if 96 ≤ arguments.length then
      some ⟨addressArgument arguments 0, addressArgument arguments 1, amountArgument arguments 2⟩
    else none := by
  have hselector : (transferFromSelector ++ arguments).take 4 = transferFromSelector := rfl
  have harguments : (transferFromSelector ++ arguments).drop 4 = arguments := rfl
  have hother : transferFromSelector ≠ transferSelector := by decide
  simp only [Transfer.ofCall?, hselector, harguments, hother, true_and, false_and, if_false]

/-- A call with neither of the two selectors is none that moves tokens. -/
theorem ofCall?_eq_none (htransfer : ¬transferSelector <+: input)
    (htransferFrom : ¬transferFromSelector <+: input) : Transfer.ofCall? signer input = none := by
  have hselector (selector : List UInt8) (hlength : selector.length = 4)
      (hnot : ¬selector <+: input) : input.take 4 ≠ selector := by
    intro h
    exact hnot (h ▸ List.take_prefix 4 input)
  simp only [Transfer.ofCall?, hselector transferSelector rfl htransfer,
    hselector transferFromSelector rfl htransferFrom, false_and, if_false]

/-- What a call of `signer` moves, if it moves tokens: from the signer to the first argument, or
    from the first argument to the second. The bytes before an address in its argument and those
    after the last argument can be any. -/
inductive Moves (signer : Address) : List UInt8 → Transfer → Prop where
  | own {recipient : Address} {pad word rest : List UInt8} (hpad : pad.length = 12)
      (hword : word.length = 32) :
    Moves signer ([0xA9, 0x05, 0x9C, 0xBB] ++ (pad ++ recipient.bytes ++ (word ++ rest)))
      ⟨signer, recipient, Nat.ofDigits 256 (word.reverse.map UInt8.toNat)⟩
  | others {owner recipient : Address} {pad pad' word rest : List UInt8} (hpad : pad.length = 12)
      (hpad' : pad'.length = 12) (hword : word.length = 32) :
    Moves signer ([0x23, 0xB8, 0x72, 0xDD] ++
        (pad ++ owner.bytes ++ (pad' ++ recipient.bytes ++ (word ++ rest))))
      ⟨owner, recipient, Nat.ofDigits 256 (word.reverse.map UInt8.toNat)⟩

theorem length_pad_append (h : pad.length = 12) : (pad ++ account.bytes).length = 32 := by
  rw [List.length_append, h, account.length_bytes]

theorem ofCall?_of_moves (h : Moves signer input t) : Transfer.ofCall? signer input = some t := by
  cases h with
  | @own recipient pad word rest hpad hword =>
    have hfirst : (pad ++ recipient.bytes).length = 32 := length_pad_append hpad
    have hlength : 64 ≤ (pad ++ recipient.bytes ++ (word ++ rest)).length := by
      rw [List.length_append, hfirst, List.length_append, hword]
      omega
    refine ofCall?_transfer.trans ?_
    rw [if_pos hlength, addressArgument_zero hpad, amountArgument, argument_succ hfirst,
      argument_zero hword, natOfBytes_eq_ofDigits]
  | @others owner recipient pad pad' word rest hpad hpad' hword =>
    have hfirst : (pad ++ owner.bytes).length = 32 := length_pad_append hpad
    have hsecond : (pad' ++ recipient.bytes).length = 32 := length_pad_append hpad'
    have hlength : 96 ≤
        (pad ++ owner.bytes ++ (pad' ++ recipient.bytes ++ (word ++ rest))).length := by
      rw [List.length_append, hfirst, List.length_append, hsecond, List.length_append, hword]
      omega
    refine ofCall?_transferFrom.trans ?_
    rw [if_pos hlength, addressArgument_zero hpad, addressArgument_succ hfirst,
      addressArgument_zero hpad', amountArgument, argument_succ hfirst, argument_succ hsecond,
      argument_zero hword, natOfBytes_eq_ofDigits]

/-- Whether a call begins with one of the two selectors and has all of its arguments. -/
def Complete (input : List UInt8) : Prop :=
  transferSelector <+: input ∧ 68 ≤ input.length ∨
    transferFromSelector <+: input ∧ 100 ≤ input.length

theorem exists_moves (signer : Address) (h : Complete input) : ∃ t, Moves signer input t := by
  rcases h with ⟨⟨arguments, rfl⟩, hlength⟩ | ⟨⟨arguments, rfl⟩, hlength⟩
  · have hlength : 68 ≤ 4 + arguments.length := by
      rwa [List.length_append] at hlength
    obtain ⟨pad, recipient, l, hpad, rfl⟩ := exists_address (l := arguments) (by omega)
    rw [List.length_append, length_pad_append hpad] at hlength
    obtain ⟨word, rest, hword, rfl⟩ := exists_word (l := l) (by omega)
    exact ⟨_, .own hpad hword⟩
  · have hlength : 100 ≤ 4 + arguments.length := by
      rwa [List.length_append] at hlength
    obtain ⟨pad, owner, l, hpad, rfl⟩ := exists_address (l := arguments) (by omega)
    rw [List.length_append, length_pad_append hpad] at hlength
    obtain ⟨pad', recipient, l', hpad', rfl⟩ := exists_address (l := l) (by omega)
    rw [List.length_append, length_pad_append hpad'] at hlength
    obtain ⟨word, rest, hword, rfl⟩ := exists_word (l := l') (by omega)
    exact ⟨_, .others hpad hpad' hword⟩

theorem complete_of_ofCall? (h : Transfer.ofCall? signer input = some t) : Complete input := by
  by_cases htransfer : transferSelector <+: input
  · obtain ⟨arguments, rfl⟩ := htransfer
    rw [ofCall?_transfer] at h
    by_cases hlength : 64 ≤ arguments.length
    · refine .inl ⟨List.prefix_append _ _, ?_⟩
      rw [List.length_append]
      exact Nat.add_le_add_left hlength 4
    · rw [if_neg hlength] at h
      cases h
  · by_cases htransferFrom : transferFromSelector <+: input
    · obtain ⟨arguments, rfl⟩ := htransferFrom
      rw [ofCall?_transferFrom] at h
      by_cases hlength : 96 ≤ arguments.length
      · refine .inr ⟨List.prefix_append _ _, ?_⟩
        rw [List.length_append]
        exact Nat.add_le_add_left hlength 4
      · rw [if_neg hlength] at h
        cases h
    · rw [ofCall?_eq_none htransfer htransferFrom] at h
      cases h

theorem ofCall?_eq_some_iff : Transfer.ofCall? signer input = some t ↔ Moves signer input t := by
  refine ⟨fun h => ?_, ofCall?_of_moves⟩
  -- A call that is read is complete, so it moves something, and this is what is read.
  obtain ⟨t', hmoves⟩ := exists_moves signer (complete_of_ofCall? h)
  have hsame := ofCall?_of_moves hmoves
  rw [h] at hsame
  cases hsame
  exact hmoves

theorem exists_ofCall?_iff : (∃ t, Transfer.ofCall? signer input = some t) ↔ Complete input := by
  constructor
  · rintro ⟨t, h⟩
    exact complete_of_ofCall? h
  · intro h
    obtain ⟨t, hmoves⟩ := exists_moves signer h
    exact ⟨t, ofCall?_of_moves hmoves⟩

theorem amount_lt_of_moves (h : Moves signer input t) : t.amount < 2 ^ 256 := by
  have hword (word : List UInt8) (hlength : word.length = 32) :
      Nat.ofDigits 256 (word.reverse.map UInt8.toNat) < 2 ^ 256 := by
    have hlt := natOfBytes_lt word
    rwa [natOfBytes_eq_ofDigits, hlength] at hlt
  cases h with
  | own hpad hlength => exact hword _ hlength
  | others hpad hpad' hlength => exact hword _ hlength

/-! ## Calls as they are made -/

theorem moves_transferCall (h : amount < 2 ^ 256) :
    Moves signer (transferCall recipient amount) ⟨signer, recipient, amount⟩ := by
  have hcall : transferCall recipient amount =
      transferSelector ++ (addressWord recipient ++ (amountWord amount ++ [])) := by
    rw [transferCall, List.append_assoc, List.append_nil]
  have hamount : amount = Nat.ofDigits 256 ((amountWord amount).reverse.map UInt8.toNat) := by
    rw [← natOfBytes_eq_ofDigits, amountWord, natOfBytes_bytesOfNat h]
  rw [hcall]
  nth_rewrite 2 [hamount]
  exact .own List.length_replicate (length_bytesOfNat 32 amount)

theorem moves_transferFromCall (h : amount < 2 ^ 256) :
    Moves signer (transferFromCall owner recipient amount) ⟨owner, recipient, amount⟩ := by
  have hcall : transferFromCall owner recipient amount = transferFromSelector ++
      (addressWord owner ++ (addressWord recipient ++ (amountWord amount ++ []))) := by
    rw [transferFromCall, List.append_assoc, List.append_assoc, List.append_nil]
  have hamount : amount = Nat.ofDigits 256 ((amountWord amount).reverse.map UInt8.toNat) := by
    rw [← natOfBytes_eq_ofDigits, amountWord, natOfBytes_bytesOfNat h]
  rw [hcall]
  nth_rewrite 2 [hamount]
  exact .others List.length_replicate List.length_replicate (length_bytesOfNat 32 amount)

theorem not_complete_balance : ¬Complete (balanceSelector ++ rest) := by
  rintro (⟨⟨arguments, h⟩, -⟩ | ⟨⟨arguments, h⟩, -⟩)
  · cases h
  · cases h

/-- What calls of token contracts are read as, for calls of every length. The calls that are read
    as movements are those with one of the two selectors and at least two or three arguments; what
    moves is `Moves` by the lower twenty bytes of each address argument and by all of the amount, so
    neither the other bytes nor what follows matter. The call that asks for a movement is read as
    that very movement, for all addresses and amounts, and a call that asks for a balance never as
    one. -/
theorem transfer_of_call :
    (∀ (signer : Address) (input : List UInt8) (t : Transfer),
        Transfer.ofCall? signer input = some t ↔ Moves signer input t) ∧
      (∀ (signer : Address) (input : List UInt8),
        (∃ t, Transfer.ofCall? signer input = some t) ↔
          [0xA9, 0x05, 0x9C, 0xBB] <+: input ∧ 68 ≤ input.length ∨
            [0x23, 0xB8, 0x72, 0xDD] <+: input ∧ 100 ≤ input.length) ∧
      (∀ (signer : Address) (input : List UInt8) (t : Transfer),
        Transfer.ofCall? signer input = some t → t.amount < 2 ^ 256) ∧
      (∀ (signer recipient : Address) (amount : Nat), amount < 2 ^ 256 →
        Transfer.ofCall? signer (transferCall recipient amount) =
          some ⟨signer, recipient, amount⟩) ∧
      (∀ (signer owner recipient : Address) (amount : Nat), amount < 2 ^ 256 →
        Transfer.ofCall? signer (transferFromCall owner recipient amount) =
          some ⟨owner, recipient, amount⟩) ∧
      ∀ (signer account : Address) (rest : List UInt8),
        Transfer.ofCall? signer (balanceCall account ++ rest) = none := by
  refine ⟨fun _ _ _ => ofCall?_eq_some_iff, fun _ _ => exists_ofCall?_iff, ?_, ?_, ?_, ?_⟩
  · intro signer input t h
    exact amount_lt_of_moves (ofCall?_eq_some_iff.1 h)
  · intro signer recipient amount h
    exact ofCall?_of_moves (moves_transferCall h)
  · intro signer owner recipient amount h
    exact ofCall?_of_moves (moves_transferFromCall h)
  · intro signer account rest
    rw [Option.eq_none_iff_forall_ne_some]
    intro t h
    rw [balanceCall, List.append_assoc] at h
    exact not_complete_balance (complete_of_ofCall? h)

/-- The largest amount, moved by a third party. -/
theorem transfer_of_call_largest :
    2 ^ 256 - 1 < 2 ^ 256 ∧
      Transfer.ofCall? (FixedBytes.ofList 20 [1])
          (transferFromCall (FixedBytes.ofList 20 [2]) (FixedBytes.ofList 20 [3]) (2 ^ 256 - 1)) =
        some ⟨FixedBytes.ofList 20 [2], FixedBytes.ofList 20 [3], 2 ^ 256 - 1⟩ := by
  have hamount : 2 ^ 256 - 1 < 2 ^ 256 := by decide
  obtain ⟨-, -, -, -, hcall, -⟩ := transfer_of_call
  exact ⟨hamount, hcall _ _ _ _ hamount⟩

end AssetOracle.Evm
