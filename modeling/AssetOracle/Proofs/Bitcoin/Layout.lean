import AssetOracle.Proofs.Bitcoin.Import
import AssetOracle.Proofs.Rpc.Layout

/-!
# Replies of output-based nodes in another layout

The names that are read of an output-based node's results (`resultShape`), and that nothing else of
a reply matters: every operation that has a value against one node has it against each node whose
replies are alike, the imports of addresses included (`Client.transfers_transaction`,
`Client.importAddress_of_alike`).
-/

namespace AssetOracle.Bitcoin

open Rpc (Talk Ask Reply)

/-- The places of the state of a chain. -/
def BlockchainInfo.shape : Shape :=
  .record [("chain", .free), ("blocks", .free), ("bestblockhash", .free)]

/-- The places of an unspent output. -/
def Unspent.shape : Shape := .record [("amount", .free)]

/-- The places of a script. -/
def Script.shape : Shape := .record [("address", .free), ("addresses", .list .free)]

/-- The places of an output. -/
def Output.shape : Shape := .record [("value", .free), ("scriptPubKey", Script.shape)]

/-- The places of an input. -/
def Input.shape : Shape := .record [("txid", .free), ("vout", .free)]

/-- The places of a transaction. -/
def RawTransaction.shape : Shape :=
  .record [("txid", .free), ("confirmations", .free), ("vin", .list Input.shape),
    ("vout", .list Output.shape)]

/-- The places of the result of a call. -/
def resultShape : String → Shape
  | "getblockchaininfo" => BlockchainInfo.shape
  | "listunspent" => .list Unspent.shape
  | "getrawtransaction" => RawTransaction.shape
  | _ => .free

/-! ## Results -/

/-- The fields of the state of a chain. -/
def BlockchainInfo.readings : List Reading :=
  [.exact (.required "chain" Decoder.text) .free Decoder.follows_text,
    .exact (.required "blocks" Decoder.word) .free Decoder.follows_word,
    .exact (.required "bestblockhash" Decoder.text) .free Decoder.follows_text]

theorem BlockchainInfo.follows_decode : BlockchainInfo.decode.Follows BlockchainInfo.shape Eq :=
  Decoder.Follows.map_eq <|
    Reading.follows_record_eq readings "BlockchainInfo" [] (by decide)
      (by simp [readings, Reading.IsExact, Reading.exact])

/-- The fields of an unspent output. -/
def Unspent.readings : List Reading :=
  [.exact (.required "amount" Decoder.double) .free Decoder.follows_double]

theorem Unspent.follows_decode : Unspent.decode.Follows Unspent.shape Eq :=
  Decoder.Follows.map_eq <|
    Reading.follows_record_eq readings "Unspent" [] (by decide)
      (by simp [readings, Reading.IsExact, Reading.exact])

/-- The fields of a script. -/
def Script.readings : List Reading :=
  [.exact (.optional "address" Decoder.text) .free Decoder.follows_optional_text,
    .exact (.optional "addresses" (Decoder.list Decoder.text)) (.list .free)
      Decoder.follows_text.list.optional_eq]

theorem Script.follows_decode : Script.decode.Follows Script.shape Eq :=
  Decoder.Follows.map_eq <|
    Reading.follows_record_eq readings "ScriptPubKey" [] (by decide)
      (by simp [readings, Reading.IsExact, Reading.exact])

/-- The fields of an output. -/
def Output.readings : List Reading :=
  [.exact (.required "value" Decoder.double) .free Decoder.follows_double,
    .exact (.required "scriptPubKey" Script.decode) Script.shape Script.follows_decode]

theorem Output.follows_decode : Output.decode.Follows Output.shape Eq :=
  Decoder.Follows.map_eq <|
    Reading.follows_record_eq readings "TxOutput" [] (by decide)
      (by simp [readings, Reading.IsExact, Reading.exact])

/-- The fields of an input. -/
def Input.readings : List Reading :=
  [.exact (.optional "txid" Decoder.text) .free Decoder.follows_optional_text,
    .exact (.optional "vout" Decoder.index) .free Decoder.follows_index.optional_eq]

theorem Input.follows_decode : Input.decode.Follows Input.shape Eq :=
  Decoder.Follows.map_eq <|
    Reading.follows_record_eq readings "TxInput" [] (by decide)
      (by simp [readings, Reading.IsExact, Reading.exact])

/-- The fields of a transaction. -/
def RawTransaction.readings : List Reading :=
  [.exact (.required "txid" Decoder.text) .free Decoder.follows_text,
    .exact (.optional "confirmations" Decoder.word) .free Decoder.follows_word.optional_eq,
    .exact (.withDefault "vin" (Decoder.list Input.decode) []) (.list Input.shape)
      Input.follows_decode.list,
    .exact (.withDefault "vout" (Decoder.list Output.decode) []) (.list Output.shape)
      Output.follows_decode.list]

theorem RawTransaction.follows_decode : RawTransaction.decode.Follows RawTransaction.shape Eq :=
  Decoder.Follows.map_eq <|
    Reading.follows_record_eq readings "RawTransaction" [] (by decide)
      (by simp [readings, Reading.IsExact, Reading.exact])

/-! ## Operations -/

namespace Client

variable {c : Client} {node node' : Talk.Node} {address id : String} {n : Nat}
  {state : OperationState}

variable (h : ∀ n ask, (node n ask).Rel (Reply.Alike (resultShape ask.call.method)) (node' n ask))

include h

theorem transfers_call {α : Type} {operation method : String} {params : List Json}
    {decoder : Decoder α} (hdecoder : decoder.Follows (resultShape method) Eq) :
    (c.call operation method params decoder).Transfers node node' := by
  refine Talk.transfers_ask (fun n => h n _) fun r r' x halike hx => ?_
  obtain ⟨x', hx', rfl⟩ := halike.decode_ok hdecoder (Result.mapError_eq_ok_iff.1 hx)
  exact Result.mapError_eq_ok_iff.2 hx'

theorem transfers_info : c.info.Transfers node node' :=
  .bind (transfers_call h BlockchainInfo.follows_decode) (fun _ => rfl)
    fun _ => Talk.transfers_pure _

theorem transfers_balance : (c.balance address).Transfers node node' :=
  .bind (transfers_call h Unspent.follows_decode.list) (fun _ => rfl)
    fun _ => Talk.transfers_pure _

theorem transfers_rawTransaction : (c.rawTransaction id).Transfers node node' :=
  transfers_call h RawTransaction.follows_decode

theorem transfers_sender (input : Input) : (c.sender input).Transfers node node' := by
  unfold sender
  split
  · refine .bind (transfers_rawTransaction h) (fun _ => rfl) fun funding => ?_
    simp only []
    split
    · exact Talk.transfers_pure _
    · exact Talk.transfers_pure _
  · exact Talk.transfers_pure _

/-- The second look-up of a transaction is transferred like the first one. -/
theorem transfers_transaction : (c.transaction id).Transfers node node' := by
  refine .bind (transfers_rawTransaction h) (fun _ => rfl) fun t => ?_
  simp only []
  split
  · exact Talk.transfers_pure _
  · exact .bind (transfers_sender h _) (fun _ => rfl) fun _ => Talk.transfers_pure _

omit h

/-! ## Imports -/

/-- An attempt succeeds if its call is answered within the limit with what counts as a success. -/
theorem importOnce_eq_ok_iff :
    (c.importOnce node address n).result = .ok state ↔
      ∃ answer after, (node n (c.importAsk address)).answer c.link.importing.limit =
          some (answer, after) ∧ after < c.importing.limit ∧
        c.importState (answer.decode Decoder.any c.link.importing.endpoint) = .ok state := by
  cases hanswer : (node n (c.importAsk address)).answer c.link.importing.limit with
  | none =>
    have hjob : ∀ after, ((c.importCall address).run node n).job.duration = some after →
        c.importing.limit ≤ after := by
      rw [run_importCall, hanswer]
      rintro after ⟨⟩
    rw [importOnce, Race.run_of_late hjob]
    simp
  | some given =>
    obtain ⟨answer, after⟩ := given
    by_cases hin : after < c.importing.limit
    · rw [(importOnce_of_answer hanswer hin).1]
      simp [hin]
    · have hjob : ∀ duration, ((c.importCall address).run node n).job.duration = some duration →
          c.importing.limit ≤ duration := by
        rw [job_importCall hanswer]
        rintro duration ⟨⟩
        exact Nat.not_lt.1 hin
      rw [importOnce, Race.run_of_late hjob]
      simp [hin]

/-- A busy wallet is told from other refusals by the error alone. -/
theorem importState_of_alike {s : Shape} {r r' : Reply} {url : Url} (halike : r.Alike s r')
    (hstate : c.importState ((Rpc.Answer.reply r).decode Decoder.any url) = .ok state) :
    c.importState ((Rpc.Answer.reply r').decode Decoder.any url) = .ok state := by
  cases houtcome : r.outcome with
  | ok value =>
    obtain ⟨kept, hkept⟩ := Rpc.Answer.decode_any_of_outcome_ok url houtcome
    obtain ⟨value', houtcome', -⟩ := halike.outcome_ok houtcome
    obtain ⟨kept', hkept'⟩ := Rpc.Answer.decode_any_of_outcome_ok url houtcome'
    rw [hkept] at hstate
    rw [hkept']
    exact hstate
  | error failure =>
    rw [Rpc.Answer.decode_of_outcome_error houtcome] at hstate
    by_cases hbusy : ∃ message, failure = .refused (-4) message
    · obtain ⟨message, rfl⟩ := hbusy
      rw [Rpc.Answer.decode_of_outcome_error (halike.outcome_refused houtcome)]
      exact hstate
    · rw [importState_error fun message heq => hbusy ⟨message, heq⟩] at hstate
      cases hstate

include h

theorem importOnce_of_alike (hstate : (c.importOnce node address n).result = .ok state) :
    (c.importOnce node' address n).result = .ok state := by
  obtain ⟨answer, after, hanswer, hin, hstate⟩ := importOnce_eq_ok_iff.1 hstate
  obtain ⟨answer', hanswer', hrel⟩ := (h n (c.importAsk address)).answer hanswer
  refine importOnce_eq_ok_iff.2 ⟨answer', after, hanswer', hin, ?_⟩
  cases hrel with
  | same => exact hstate
  | reply halike => exact importState_of_alike halike hstate

/-- First attempts succeed or fail together, so both imports end with attempts of the same number. -/
theorem importAddress_of_alike (hstate : (c.importAddress node address).result = .ok state) :
    (c.importAddress node' address).result = .ok state := by
  have hback : ∀ n ask, (node' n ask).Rel (Reply.Alike (resultShape ask.call.method)) (node n ask) :=
    fun n ask => (h n ask).symm fun _ _ => Reply.Alike.symm
  rw [result_importAddress] at hstate ⊢
  cases hfirst : (c.importOnce node address 0).result with
  | ok first =>
    rw [importOnce_of_alike h hfirst]
    rwa [hfirst] at hstate
  | error e =>
    rw [hfirst] at hstate
    cases hfirst' : (c.importOnce node' address 0).result with
    | ok first =>
      rw [importOnce_of_alike hback hfirst'] at hfirst
      cases hfirst
    | error e' => exact importOnce_of_alike h hstate

end Client

end AssetOracle.Bitcoin
