import AssetOracle.Proofs.Decimal.Value
import AssetOracle.Proofs.Evm.Spelling
import AssetOracle.Proofs.Evm.Token
import AssetOracle.Proofs.Evm.Transfer

/-!
# Balances of tokens

What an account holds of a token is said by the token's contract. The call names the account in its
argument, so calls for different accounts differ (`Token.balanceAsk_injective`). Thirty-two bytes
are the answer and are reported as the number they stand for, digit by digit; any other number of
bytes is an error that repeats it (`Token.balance_of_answer`).
-/

namespace AssetOracle

/-- Whether a text writes a number in decimal digits, with no zero in front of others. -/
structure Decimal.Writes (text : String) (n : Nat) : Prop where
  digits : IsDigits text.toList
  leading : text = "0" ∨ text.toList.head? ≠ some '0'
  value : Nat.ofDigitChars 10 text.toList 0 = n

theorem Decimal.writes_toString (n : Nat) : Writes (toString n) n := by
  have htext : (toString n).toList = Decimal.digits n := Nat.toList_repr
  refine ⟨htext ▸ isDigits_digits n, ?_, htext ▸ Nat.ofDigitChars_ten_toDigits⟩
  refine (leading_digits n).imp (fun hzero => ?_) fun hhead => htext ▸ hhead
  exact String.toList_injective (htext.trans hzero)

namespace Evm

open Rpc (Talk Ask)
open Text (Hex.encodeBytes)

variable {s : String} {account : Address} {node : Talk.Node} {raw : List UInt8} {n : Nat}
  {t : Token} {b : Balance}

/-! ## The call -/

/-- The call that asks a token's contract what an account holds: a selector, and the account's
    twenty bytes after twelve zeros. -/
def Token.balanceAsk (t : Token) (account : Address) : Ask :=
  ⟨t.channel, ⟨"eth_call", [.ofMembers [("to", .text (FixedBytes.render t.contract)),
    ("input", .text ("0x70a08231" ++ "000000000000000000000000" ++ String.ofList account.digits))],
    .text "latest"]⟩⟩

theorem bytesJson_balanceCall (account : Address) : bytesJson (balanceCall account) =
    .text ("0x70a08231" ++ "000000000000000000000000" ++ String.ofList account.digits) := by
  have hdigits : '0' :: 'x' :: Hex.encodeBytes (balanceCall account) =
      "0x70a08231000000000000000000000000".toList ++ account.digits := rfl
  rw [bytesJson, hdigits, String.ofList_append, String.ofList_toList]
  rfl

theorem FixedBytes.digits_injective {size : Nat} :
    Function.Injective (@FixedBytes.digits size) := by
  rintro ⟨bytes, hbytes⟩ ⟨bytes', hbytes'⟩ h
  obtain rfl : bytes = bytes' := Text.Hex.encodeBytes_injective h
  rfl

/-- Different accounts are asked for by different calls. -/
theorem Token.balanceAsk_injective (t : Token) : Function.Injective t.balanceAsk := by
  intro account account' h
  have hparams (x : Address) : (t.balanceAsk x).call.params = [.object [("input", .text
      ("0x70a08231" ++ "000000000000000000000000" ++ String.ofList x.digits)),
      ("to", .text (FixedBytes.render t.contract))], .text "latest"] := rfl
  have hsame : (t.balanceAsk account).call.params = (t.balanceAsk account').call.params := by
    rw [h]
  rw [hparams, hparams] at hsame
  simp at hsame
  exact FixedBytes.digits_injective (String.ofList_injective hsame)

theorem Token.balance_of_spells (h : Spells s account.bytes) :
    t.balance s = do
      let reply ← request t.asset balanceOperation t.channel "eth_call"
        (t.balanceAsk account).call.params decodeBytes
      return reply.bind t.balanceOf := by
  rw [balance, parseAddress_eq_ok_iff.2 h]
  simp only [balanceAsk, ← bytesJson_balanceCall, fixedJson]

/-- The one call of a run is the one that names the account. -/
theorem Token.calls_balance (h : Spells s account.bytes) :
    ((t.balance s).run node 0).calls = [(t.balanceAsk account, node 0 (t.balanceAsk account))] := by
  rw [balance_of_spells h, (Talk.run_map _).2, run_request.2]
  rfl

/-! ## The answer -/

theorem Token.balanceOf_eq_ok_iff : t.balanceOf raw = .ok b ↔
    raw.length = 32 ∧ b = .single t.asset (toString (natOfBytes raw)) := by
  unfold balanceOf
  by_cases hlength : raw.length = 32
  · simp [hlength, eq_comm]
  · simp [hlength]

theorem Token.ending_of_says (h : Spells s account.bytes)
    (hraw : Says node 0 (t.balanceAsk account) decodeBytes raw) :
    (((Adapter.token t).client node).balance s).ending = .returned (t.balanceOf raw) := by
  have hreply : ((request t.asset balanceOperation t.channel "eth_call"
      (t.balanceAsk account).call.params decodeBytes).run node 0).value = some (.ok raw) :=
    value_request_eq_ok_iff.2 hraw
  refine Talk.Run.ending_job_iff.2 ?_
  rw [Adapter.balance, balance_of_spells h, (Talk.run_map _).1]
  exact congrArg (Option.map _) hreply

theorem Token.says_of_ending (h : Spells s account.bytes)
    (hend : (((Adapter.token t).client node).balance s).ending = .returned (.ok b)) :
    ∃ raw, Says node 0 (t.balanceAsk account) decodeBytes raw ∧ t.balanceOf raw = .ok b := by
  have hvalue := Talk.Run.ending_job_iff.1 hend
  rw [Adapter.balance, balance_of_spells h, (Talk.run_map _).1] at hvalue
  obtain ⟨reply, hreply, hbind⟩ := Option.map_eq_some_iff.1 hvalue
  obtain ⟨raw, rfl, hraw⟩ := Result.bind_eq_ok_iff.1 hbind
  exact ⟨raw, value_request_eq_ok_iff.1 hreply, hraw⟩

/-! ## Replies with bytes -/

/-- A reply whose result is bytes. -/
def bytesReply (raw : List UInt8) : Rpc.Reply := resultReply (bytesJson raw)

theorem decodeBytes_bytesJson (raw : List UInt8) : (bytesJson raw).decode decodeBytes = .ok raw := by
  have hspells : Spells (String.ofList ('0' :: 'x' :: Hex.encodeBytes raw)) raw :=
    (⟨raw, rfl⟩ : FixedBytes raw.length).spells_render
  rw [bytesJson, Json.decode, Json.toDocument, decodeBytes,
    readPairs_dropMark_eq_ok_iff.2 hspells]

/-- Every byte string is what some reply says. -/
theorem replyValue_bytesReply (raw : List UInt8) :
    replyValue decodeBytes (bytesReply raw) = .ok raw :=
  replyValue_resultReply (.text _) (decodeBytes_bytesJson raw)

/-- A node whose contract answers with bytes. -/
def bytesNode (raw : List UInt8) : Talk.Node := fun _ _ => .reply (.ofMillis 1) (bytesReply raw)

end Evm

end AssetOracle
