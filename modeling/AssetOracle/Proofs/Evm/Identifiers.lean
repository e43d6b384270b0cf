import AssetOracle.Proofs.Evm.Spelling
import AssetOracle.Proofs.Evm.Transfer

/-!
# Identifiers that are reported

What an account-based adapter reports of a transaction can be given back to it. The id spells the
hash that was looked up, and whom a transaction is from and to spells the account that the reply of
the node or the call of the token names (`Adapter.identifiers_given_back`).
-/

namespace AssetOracle

open Rpc (Talk)

namespace Evm

variable {size : Nat} {x : FixedBytes size} {bytes : List UInt8} {item value : Json}
  {members : List (String × Json)} {node : Talk.Node} {channel : Rpc.Channel} {hash : Hash}
  {host : AccountTransaction} {name : String}

/-! ## The members of a reply -/

/-- Whether the member of a name is a text that spells bytes. -/
def HasSpelling (members : List (String × Json)) (name : String) (bytes : List UInt8) : Prop :=
  ∃ s, (name, .text s) ∈ members ∧ Spells s bytes

theorem exists_text_of_toDocument {s : String} (h : item.toDocument = .text s) :
    item = .text s := by
  cases item <;> cases h
  rfl

theorem exists_text_of_decodeFixed (h : item.decode (decodeFixed size) = .ok x) :
    ∃ s, item = .text s ∧ Spells s x.bytes := by
  unfold Json.decode decodeFixed at h
  split at h
  · rename_i s htext
    split at h
    · rename_i hread
      cases h
      exact ⟨s, exists_text_of_toDocument htext, parse_eq_ok_iff.1 hread⟩
    · cases h
  · exact absurd h Decoder.unexpected_ne_ok

theorem exists_text_of_decodeBytes (h : item.decode decodeBytes = .ok bytes) :
    ∃ s, item = .text s ∧ Spells s bytes := by
  unfold Json.decode decodeBytes at h
  split at h
  · rename_i s htext
    split at h
    · rename_i hread
      cases h
      exact ⟨s, exists_text_of_toDocument htext, readPairs_dropMark_eq_ok_iff.1 hread⟩
    · cases h
  · exact absurd h Decoder.unexpected_ne_ok

theorem decode_of_optional {α : Type} {decode : Decoder α} {a : α}
    (h : item.decode (Decoder.optional decode) = .ok (some a)) : item.decode decode = .ok a := by
  unfold Json.decode Decoder.optional at h
  split at h
  · cases h
  · obtain ⟨b, hb, hsame⟩ := Result.map_eq_ok_iff.1 h
    cases hsame
    exact hb

/-- Only an object is decoded as one. -/
theorem exists_members_of_decodeObject {fields : List Field} {row : Row fields}
    (h : value.decode (decodeObject fields) = .ok row) : ∃ members, value = .object members ∧
      Decoder.recordOfMembers fields .jsonValue (Json.memberDocuments members) none = .ok row := by
  unfold Json.decode decodeObject at h
  split at h
  · rename_i hobject
    cases value <;> cases hobject
    exact ⟨_, rfl, h⟩
  · exact absurd h Decoder.unexpected_ne_ok

/-- The signer, the recipient and the call of a transaction are what members of its object spell. -/
theorem AccountTransaction.hasSpelling
    (h : value.decode (Decoder.optional AccountTransaction.decode) = .ok (some host)) :
    ∃ members, value = .object members ∧ HasSpelling members "from" host.signer.bytes ∧
      HasSpelling members "input" host.input ∧
      ∀ recipient, host.recipient = some recipient → HasSpelling members "to" recipient.bytes := by
  obtain ⟨row, hrow, rfl⟩ := Result.map_eq_ok_iff.1 (decode_of_optional h)
  obtain ⟨members, rfl, hmembers⟩ := exists_members_of_decodeObject hrow
  obtain ⟨signer, recipient, amount, input, block, ⟨⟩⟩ := row
  refine ⟨members, rfl, ?_, ?_, ?_⟩
  · obtain ⟨item, hitem, hsigner⟩ :=
      Json.exists_of_recordOfMembers (by decide) rfl hmembers (.inl ⟨rfl, HEq.rfl⟩)
    obtain ⟨s, rfl, hs⟩ := exists_text_of_decodeFixed hsigner
    exact ⟨s, hitem, hs⟩
  · obtain ⟨item, hitem, hinput⟩ := Json.exists_of_recordOfMembers (by decide) rfl hmembers
      (.inr (.inr (.inr (.inl ⟨rfl, HEq.rfl⟩))))
    obtain ⟨s, rfl, hs⟩ := exists_text_of_decodeBytes hinput
    exact ⟨s, hitem, hs⟩
  · rintro account rfl
    rcases Json.gives_of_recordOfMembers (by decide) rfl hmembers (.inr (.inl ⟨rfl, HEq.rfl⟩))
      members rfl with ⟨item, hitem, hrecipient⟩ | ⟨-, hnone⟩
    · obtain ⟨s, rfl, hs⟩ := exists_text_of_decodeFixed (decode_of_optional hrecipient)
      exact ⟨s, hitem, hs⟩
    · cases hnone

/-- Whether a reply to the look-up of a hash comes in time and has an object with these members. -/
def Replies (node : Talk.Node) (channel : Rpc.Channel) (hash : Hash)
    (members : List (String × Json)) : Prop :=
  ∃ r after, (node 0 (lookupAsk channel hash)).answer channel.limit = some (.reply r, after) ∧
    bodyOutcome r.body = .ok (.object members)

theorem Shows.exists_members (h : Shows node channel hash host) :
    ∃ members, Replies node channel hash members ∧ HasSpelling members "from" host.signer.bytes ∧
      HasSpelling members "input" host.input ∧
      ∀ recipient, host.recipient = some recipient → HasSpelling members "to" recipient.bytes := by
  obtain ⟨r, after, hanswer, hvalue⟩ := h
  obtain ⟨result, hresult, hdecode⟩ := of_replyValue hvalue
  obtain ⟨members, rfl, hspellings⟩ := AccountTransaction.hasSpelling hdecode
  exact ⟨members, ⟨r, after, hanswer, hresult⟩, hspellings⟩

end Evm

namespace Adapter

open Evm (Address Hash Spells HasSpelling Replies RefusesInput Moves)

variable {a : Adapter} {channel : Rpc.Channel} {node : Talk.Node} {id s : String} {tx : Transaction}
  {account : Address} {hash : Hash}

/-! ## Texts that are given back -/

/-- Whether an adapter takes a text for an address. It never refuses the text, and it asks for the
    balance as with any other spelling of the address. -/
structure TakesAddress (a : Adapter) (s : String) (account : Address) : Prop where
  parse : Address.parse s = .ok account
  accepted : ∀ node, ¬RefusesInput ((a.client node).balance s).ending
  alike : ∀ node s', Spells s' account.bytes → (a.balance s).run node 0 = (a.balance s').run node 0

/-- Whether an adapter takes a text for a hash. It never refuses the text, and it looks it up by the
    same calls as any other spelling of the hash. -/
structure TakesHash (a : Adapter) (s : String) (hash : Hash) : Prop where
  parse : Evm.FixedBytes.parse 32 s = .ok hash
  accepted : ∀ node, ¬RefusesInput ((a.client node).transaction s).ending
  alike : ∀ node s', Spells s' hash.bytes →
    ((a.transaction s).run node 0).calls = ((a.transaction s').run node 0).calls

theorem takesAddress_of_spells (hchain : a.chain? = some channel) (h : Spells s account.bytes) :
    a.TakesAddress s account where
  parse := Evm.parse_eq_ok_iff.2 h
  accepted _ := not_refusesInput (balance_failsOnly_of_spells hchain h)
  alike node s' h' := by rw [balance_congr hchain h h']

theorem takesHash_of_spells (hchain : a.chain? = some channel) (h : Spells s hash.bytes) :
    a.TakesHash s hash where
  parse := Evm.parse_eq_ok_iff.2 h
  accepted _ := not_refusesInput (transaction_failsOnly_of_spells hchain h)
  alike node _ h' := ((transaction_alike hchain h h').run node 0).1

/-- Whom a transaction is from and to according to the reply that shows it. For the asset of a chain
    two members of the reply say so, for a token the call that is in the reply. -/
inductive Parties (members : List (String × Json)) : Adapter → Address → Option Address → Prop where
  | chain (c : Evm.Client) {signer : Address} {recipient : Option Address}
    (hfrom : HasSpelling members "from" signer.bytes)
    (hto : ∀ account, recipient = some account → HasSpelling members "to" account.bytes) :
    Parties members (.evm c) signer recipient
  | token (t : Evm.Token) {signer : Address} {input : List UInt8} {transfer : Evm.Transfer}
    (hfrom : HasSpelling members "from" signer.bytes) (hinput : HasSpelling members "input" input)
    (hmoves : Moves signer input transfer) :
    Parties members (.token t) transfer.sender (some transfer.recipient)

/-- Whether an adapter takes what it reports of a transaction for the hash that was looked up and for
    the accounts that the transaction is from and to. -/
structure TakesBack (a : Adapter) (tx : Transaction) (hash : Hash) (sender : Address)
    (recipient : Option Address) : Prop where
  ofId : a.TakesHash tx.id hash
  ofSender : a.TakesAddress tx.sender sender
  ofRecipient : ∀ account, recipient = some account → a.TakesAddress tx.recipient account
  ofNobody : recipient = none → tx.recipient = ""

theorem takesBack_of_client {c : Evm.Client}
    (h : (((evm c).client node).transaction id).ending = .returned (.ok tx)) :
    ∃ hash members sender recipient, Spells id hash.bytes ∧ Replies node c.channel hash members ∧
      Parties members (.evm c) sender recipient ∧ (evm c).TakesBack tx hash sender recipient := by
  obtain ⟨located, hlocated, rfl⟩ := Evm.Client.ending_eq_ok_iff.1 h
  obtain ⟨hhash, hshows⟩ := Evm.shows_of_locate hlocated
  obtain ⟨members, hreplies, hfrom, -, hto⟩ := hshows.exists_members
  have hchain : (evm c).chain? = some c.channel := rfl
  refine ⟨located.hash, members, _, _, Evm.parse_eq_ok_iff.1 hhash, hreplies, .chain c hfrom hto,
    takesHash_of_spells hchain located.hash.spells_render,
    takesAddress_of_spells hchain (Evm.Address.spells_render _), fun account haccount => ?_,
    fun hnone => ?_⟩
  · rw [Evm.Client.transactionOf, haccount]
    exact takesAddress_of_spells hchain (Evm.Address.spells_render account)
  · rw [Evm.Client.transactionOf, hnone]
    rfl

theorem takesBack_of_token {t : Evm.Token}
    (h : (((token t).client node).transaction id).ending = .returned (.ok tx)) :
    ∃ hash members sender recipient, Spells id hash.bytes ∧ Replies node t.channel hash members ∧
      Parties members (.token t) sender recipient ∧ (token t).TakesBack tx hash sender recipient := by
  obtain ⟨located, hlocated, htx⟩ := Evm.Token.ending_eq_ok_iff.1 h
  obtain ⟨-, transfer, htransfer, rfl⟩ := Evm.Token.transactionOf_eq_ok_iff.1 htx
  obtain ⟨hhash, hshows⟩ := Evm.shows_of_locate hlocated
  obtain ⟨members, hreplies, hfrom, hinput, -⟩ := hshows.exists_members
  have hchain : (token t).chain? = some t.channel := rfl
  refine ⟨located.hash, members, _, _, Evm.parse_eq_ok_iff.1 hhash, hreplies,
    .token t hfrom hinput (Evm.ofCall?_eq_some_iff.1 htransfer),
    takesHash_of_spells hchain located.hash.spells_render,
    takesAddress_of_spells hchain (Evm.Address.spells_render _), fun account haccount => ?_,
    fun hnone => ?_⟩
  · obtain rfl := Option.some.inj haccount
    exact takesAddress_of_spells hchain (Evm.Address.spells_render _)
  · cases hnone

/-- Every address and every hash is read as itself from the text that is printed for it. So what an
    account-based adapter reports of a transaction can be given back to it: it takes the id for the
    hash that was looked up, and whom the transaction is from, and to if it is to anybody, for the
    accounts that the node's reply or the call in this reply names. -/
theorem identifiers_given_back :
    (∀ address : Address, Address.parse (Evm.Address.render address) = .ok address) ∧
    (∀ hash : Hash, Evm.FixedBytes.parse 32 hash.render = .ok hash) ∧
    ∀ (a : Adapter) (channel : Rpc.Channel) (node : Talk.Node) (id : String) (tx : Transaction),
      a.chain? = some channel → ((a.client node).transaction id).ending = .returned (.ok tx) →
        ∃ hash members sender recipient, Spells id hash.bytes ∧ Replies node channel hash members ∧
          Parties members a sender recipient ∧ a.TakesBack tx hash sender recipient := by
  refine ⟨fun address => Evm.parse_eq_ok_iff.2 (Evm.Address.spells_render address),
    fun hash => Evm.parse_eq_ok_iff.2 hash.spells_render, ?_⟩
  intro a channel node id tx hchain h
  obtain ⟨c, rfl, rfl⟩ | ⟨t, rfl, rfl⟩ := cases_of_chain hchain
  · exact takesBack_of_client h
  · exact takesBack_of_token h

/-- A transaction of the sample chain and a movement of the sample token. -/
theorem identifiers_given_back_samples :
    (∃ tx hash sender recipient, (((evm sampleChain).client (nodeAt "0x68")).transaction
        sampleHash).ending = .returned (.ok tx) ∧
      (evm sampleChain).TakesBack tx hash sender recipient) ∧
    ∃ tx hash sender recipient, (((token Evm.Token.sampleToken).client
        Evm.Token.callNode).transaction sampleHash).ending = .returned (.ok tx) ∧
      (token Evm.Token.sampleToken).TakesBack tx hash sender (some recipient) := by
  constructor
  · obtain ⟨tx, htx, -⟩ := @exists_transaction_nodeAt "0x68" 104 (by decide +kernel)
    obtain ⟨hash, _, sender, recipient, -, -, -, htakes⟩ :=
      identifiers_given_back.2.2 (.evm sampleChain) sampleChain.channel _ _ tx rfl htx
    exact ⟨tx, hash, sender, recipient, htx, htakes⟩
  · obtain ⟨tx, htx⟩ := Evm.Token.exists_transaction_callNode
    obtain ⟨hash, members, sender, recipient, -, -, hparties, htakes⟩ := identifiers_given_back.2.2
      (.token Evm.Token.sampleToken) Evm.Token.sampleToken.channel _ _ tx rfl htx
    cases hparties with
    | token => exact ⟨tx, hash, _, _, htx, htakes⟩

end Adapter

end AssetOracle
