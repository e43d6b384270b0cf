import AssetOracle.Proofs.Node.Confirmation
import AssetOracle.Proofs.Rpc.Layout

/-!
# Replies of ledger nodes in another layout

The names that are read of a ledger node's results (`resultShape`). A result is looked at twice, for
an error that it reports and for the value, so the names of such errors are read of every result
(`reportFields`). Nothing else of a reply matters: every operation that has a value against one node
has it against each node whose replies are alike.
-/

namespace AssetOracle.Ripple

open Rpc (Talk Reply)

/-- The places of an error that a result reports. -/
def reportFields : List (String × Shape) :=
  [("status", .free), ("error", .free), ("error_message", .free)]

/-- The places of a ledger. -/
def Ledger.shape : Shape := .record [("hash", .free), ("seq", .free)]

/-- The places of the ledgers that a node reports. -/
def ServerInfo.shape : Shape :=
  .record [("validated_ledger", Ledger.shape), ("closed_ledger", Ledger.shape)]

/-- The places of an issued amount. -/
def Amount.shape : Shape := .record [("currency", .free), ("issuer", .free), ("value", .free)]

/-- The places of a transaction. -/
def Payment.shape : Shape :=
  .record ([("hash", .free), ("Account", .free), ("Destination", .free), ("Amount", Amount.shape),
    ("validated", .free)] ++ reportFields)

/-- The places of the result of a call. -/
def resultShape : String → Shape
  | "server_info" => .record ([("info", ServerInfo.shape)] ++ reportFields)
  | "account_info" => .record ([("account_data", .record [("Balance", .free)])] ++ reportFields)
  | "tx" => Payment.shape
  | _ => .free

/-! ## Results -/

/-- The fields of a ledger. -/
def Ledger.readings : List Reading :=
  [.exact (.required "hash" Decoder.text) .free Decoder.follows_text,
    .exact (.required "seq" Decoder.word) .free Decoder.follows_word]

theorem Ledger.follows_decode : Ledger.decode.Follows Ledger.shape Eq :=
  Decoder.Follows.map_eq <|
    Reading.follows_record_eq readings "LedgerRef" [] (by decide)
      (by simp [readings, Reading.IsExact, Reading.exact])

/-- The fields of the ledgers that a node reports. -/
def ServerInfo.readings : List Reading :=
  [.exact (.optional "validated_ledger" Ledger.decode) Ledger.shape
      Ledger.follows_decode.optional_eq,
    .exact (.optional "closed_ledger" Ledger.decode) Ledger.shape
      Ledger.follows_decode.optional_eq]

theorem ServerInfo.follows_decode : ServerInfo.decode.Follows ServerInfo.shape Eq :=
  Decoder.Follows.map_eq <|
    Reading.follows_record_eq readings "ServerInfo" [] (by decide)
      (by simp [readings, Reading.IsExact, Reading.exact])

/-- The field of the reply that holds a node's ledgers. -/
def serverInfoReadings : List Reading :=
  [.exact (.required "info" ServerInfo.decode) ServerInfo.shape ServerInfo.follows_decode]

theorem follows_decodeServerInfo : decodeServerInfo.Follows (resultShape "server_info") Eq :=
  Decoder.Follows.map_eq <|
    Reading.follows_record_eq serverInfoReadings "ServerInfoResult" reportFields (by decide)
      (by simp [serverInfoReadings, Reading.IsExact, Reading.exact])

/-- The field of what an account holds. -/
def accountReadings : List Reading :=
  [.exact (.required "Balance" Decoder.text) .free Decoder.follows_text]

/-- The field of the reply that holds the balance of an account. -/
def accountInfoReadings : List Reading :=
  [.exact (.required "account_data" ((Decoder.record "AccountData"
        [.required "Balance" Decoder.text]).map fun (balance, ()) => balance))
      (.record [("Balance", .free)])
      (Decoder.Follows.map_eq <|
        Reading.follows_record_eq accountReadings "AccountData" [] (by decide)
          (by simp [accountReadings, Reading.IsExact, Reading.exact]))]

theorem follows_decodeAccountBalance :
    decodeAccountBalance.Follows (resultShape "account_info") Eq :=
  Decoder.Follows.map_eq <|
    Reading.follows_record_eq accountInfoReadings "AccountInfoResult" reportFields (by decide)
      (by simp [accountInfoReadings, Reading.IsExact, Reading.exact])

/-- The fields of an issued amount. -/
def Amount.readings : List Reading :=
  [.exact (.required "currency" Decoder.text) .free Decoder.follows_text,
    .exact (.optional "issuer" Decoder.text) .free Decoder.follows_optional_text,
    .exact (.required "value" Decoder.text) .free Decoder.follows_text]

/-- An amount is a text of drops, or an object of an issued amount all of which can be kept. -/
theorem Amount.decode_eq_ok_iff {dialect : Dialect} {d : Document} {x : Amount} :
    Amount.decode dialect d = .ok x ↔ d.Fit ∧ ((∃ s, d = .text s ∧ x = .drops s) ∨
      ∃ ms cut currency issuer value, d = .object ms cut ∧
        Decoder.recordOfMembers issuedFields dialect ms cut =
          .ok (currency, issuer, value, ()) ∧ x = .issued currency issuer value) := by
  unfold Amount.decode Document.Fit
  cases hfault : d.keepFault with
  | some fault => simp
  | none =>
    cases d with
    | text s => simp [eq_comm]
    | object ms cut =>
      cases hrow : Decoder.recordOfMembers issuedFields dialect ms cut with
      | error e => simp [hrow]
      | ok row =>
        obtain ⟨currency, issuer, value, ⟨⟩⟩ := row
        simp only [hrow]
        constructor
        · rintro ⟨⟩
          exact ⟨trivial, .inr ⟨ms, cut, currency, issuer, value, rfl, hrow, rfl⟩⟩
        · rintro ⟨-, ⟨s, hd, -⟩ | ⟨ms', cut', currency', issuer', value', hd, hrow', rfl⟩⟩
          · cases hd
          · cases hd
            rw [hrow] at hrow'
            cases hrow'
            rfl
    | _ => simp

/-- An amount is read as a whole before it is taken apart. -/
theorem Amount.follows_decode : Amount.decode.Follows Amount.shape Eq := by
  intro dialect d d' x halike hx
  obtain ⟨hfit, htext | ⟨ms, cut, currency, issuer, value, rfl, hrow, rfl⟩⟩ :=
    Amount.decode_eq_ok_iff.1 hx
  · obtain ⟨s, rfl, rfl⟩ := htext
    rw [halike.eq_of_isScalar trivial]
    exact ⟨_, hx, rfl⟩
  · obtain ⟨ms', rfl⟩ := halike.exists_object
    obtain ⟨row', hrow', hagree⟩ :=
      Reading.recordOfMembers_of_alike readings [] (by decide) halike hrow
    obtain rfl := Reading.eq_of_agree (by simp [readings, Reading.IsExact, Reading.exact]) hagree
    exact ⟨_, Amount.decode_eq_ok_iff.2 ⟨halike.fit hfit, .inr
      ⟨ms', cut, currency, issuer, value, rfl, hrow', rfl⟩⟩, rfl⟩

/-- The fields of a transaction. -/
def Payment.readings : List Reading :=
  [.exact (.required "hash" Decoder.text) .free Decoder.follows_text,
    .exact (.required "Account" Decoder.text) .free Decoder.follows_text,
    .exact (.optional "Destination" Decoder.text) .free Decoder.follows_optional_text,
    .exact (.optional "Amount" Amount.decode) Amount.shape Amount.follows_decode.optional_eq,
    .exact (.withDefault "validated" Decoder.bool false) .free Decoder.follows_bool]

theorem Payment.follows_decode : Payment.decode.Follows (resultShape "tx") Eq :=
  Decoder.Follows.map_eq <|
    Reading.follows_record_eq readings "TxResult" reportFields (by decide)
      (by simp [readings, Reading.IsExact, Reading.exact])

/-! ## Errors that are reported -/

variable {s : Shape} {result result' : Json}

/-- Whether every name is read by which a result reports an error. -/
def ReadsReport (s : Shape) : Prop := s.Reads "status" ∧ s.Reads "error" ∧ s.Reads "error_message"

theorem readsReport (fields : List (String × Shape)) :
    ReadsReport (.record (fields ++ reportFields)) := by
  simp [ReadsReport, Shape.Reads, reportFields]

theorem reportedError_of_alike (hreads : ReadsReport s)
    (h : Document.Alike s result.toDocument result'.toDocument) :
    reportedError result' = reportedError result := by
  have htext : ∀ name, s.Reads name →
      (result'.get? name).bind Json.text? = (result.get? name).bind Json.text? := by
    intro name hname
    ext t
    exact ⟨Json.text_get?_of_alike h.symm hname, Json.text_get?_of_alike h hname⟩
  obtain ⟨hstatus, herror, hmessage⟩ := hreads
  unfold reportedError
  rw [htext "status" hstatus, htext "error" herror, htext "error_message" hmessage]

/-! ## Operations -/

namespace Client

variable {c : Client} {node node' : Talk.Node} {address id : String}

variable (h : ∀ n ask, (node n ask).Rel (Reply.Alike (resultShape ask.call.method)) (node' n ask))

include h

theorem transfers_request {α : Type} {operation method : String} {params : Json}
    {decoder : Decoder α} (hdecoder : decoder.Follows (resultShape method) Eq)
    (hreads : ReadsReport (resultShape method)) :
    (c.request operation method params decoder).Transfers node node' := by
  refine Talk.transfers_ask (fun n => h n _) fun r r' x halike hx => ?_
  obtain ⟨result, hresult, hreported, hdecode⟩ := interpret_eq_ok_iff.1 hx
  obtain ⟨result', hresult', hkept⟩ := halike.decode_ok Decoder.follows_any hresult
  obtain ⟨x', hdecode', rfl⟩ := hdecoder hkept hdecode
  exact interpret_eq_ok_iff.2
    ⟨result', hresult', (reportedError_of_alike hreads hkept).trans hreported, hdecode'⟩

theorem transfers_info : c.info.Transfers node node' :=
  .bind (transfers_request h follows_decodeServerInfo (readsReport _)) (fun _ => rfl)
    fun _ => Talk.transfers_pure _

theorem transfers_balance : (c.balance address).Transfers node node' :=
  .bind (transfers_request h follows_decodeAccountBalance (readsReport _)) (fun _ => rfl)
    fun _ => Talk.transfers_pure _

theorem transfers_transaction : (c.transaction id).Transfers node node' :=
  .bind (transfers_request h Payment.follows_decode (readsReport _)) (fun _ => rfl)
    fun _ => Talk.transfers_pure _

end Client

end AssetOracle.Ripple
