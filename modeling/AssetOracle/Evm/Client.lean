import AssetOracle.Chain.Confirmation
import AssetOracle.Evm.Reply
import AssetOracle.Evm.Transfer
import AssetOracle.Node.Error

/-!
# Account-based nodes

The operations on a node that keeps accounts, for the asset of the chain itself and for tokens,
whose contracts live on the chain. Tokens use the channel of their chain but make their errors in
their own name. A text that is no address or hash is refused before the node is asked.
-/

namespace AssetOracle.Evm

open Rpc (Talk Channel requestUrl)

/-- A chain as it is asked for one asset. -/
structure Client where
  asset : String
  channel : Channel
deriving DecidableEq

/-- A token on a chain. -/
structure Token where
  asset : String
  channel : Channel
  contract : Address
deriving DecidableEq

/-- A channel of its own number to a URL, unless the text is no URL. -/
def openChannel (number : Nat) (endpoint : String) (limit : Duration) :
    Except String Channel :=
  match Url.parse? endpoint with
  | some url => .ok { number, protocol := .evm, endpoint := url, limit := some limit }
  | none => .error ("invalid RPC URL '" ++ endpoint ++ "': not an absolute URL")

/-- What an answer means in an operation for an asset. -/
def interpret {α : Type} (asset operation : String) (channel : Channel) (decoder : Decoder α) :
    Rpc.Answer → NodeResult α
  | .reply r =>
    (replyValue decoder r).mapError fun failure => .failed asset operation (.evm failure)
  | .broken =>
    .error (.failed asset operation (.evm (.transport (requestUrl channel.endpoint))))
  | .late =>
    .error (.failed asset operation
      (.text ("rpc timed out after " ++ toString (channel.limit.getD .zero).millis ++ "ms")))

/-- A call for an operation. -/
def request {α : Type} (asset operation : String) (channel : Channel) (method : String)
    (params : List Json) (decoder : Decoder α) : Talk (NodeResult α) := do
  let answer ← Talk.call channel method params
  return interpret asset operation channel decoder answer

/-- An address as a parameter. -/
def fixedJson {size : Nat} (x : FixedBytes size) : Json := .text x.render

/-- Bytes as a parameter. -/
def bytesJson (bytes : List UInt8) : Json :=
  .text (String.ofList ('0' :: 'x' :: Text.Hex.encodeBytes bytes))

/-- The head of the chain, for any asset on it. -/
def chainState (asset : String) (channel : Channel) : Talk (NodeResult ChainState) := do
  match ← request asset infoOperation channel "eth_chainId" [] decodeWord with
  | .error e => return .error e
  | .ok chain =>
    match ← request asset infoOperation channel "eth_getBlockByNumber"
        [.text "latest", .bool false] (Decoder.optional Block.decode) with
    | .error e => return .error e
    | .ok none =>
      return .error (.failed asset infoOperation (.text "latest block unavailable"))
    | .ok (some block) =>
      return .ok ⟨toString chain.toNat, block.number, block.hash.render⟩

/-- A transaction with the number of blocks above its own. -/
structure Located where
  hash : Hash
  transaction : AccountTransaction
  observed : UInt64
deriving DecidableEq

/-- Looks a transaction up and counts the blocks above it, for any asset on the chain. -/
def locate (asset : String) (channel : Channel) (id : String) : Talk (NodeResult Located) := do
  match FixedBytes.parse 32 id with
  | .error e =>
    return .error (.invalidInput ("invalid transaction hash '" ++ id ++ "': " ++ e.message))
  | .ok hash =>
    match ← request asset transactionOperation channel "eth_getTransactionByHash"
        [fixedJson hash] (Decoder.optional AccountTransaction.decode) with
    | .error e => return .error e
    | .ok none =>
      return .error
        (.failed asset transactionOperation (.text ("transaction " ++ id ++ " not found")))
    | .ok (some transaction) =>
      match ← request asset transactionOperation channel "eth_blockNumber" [] decodeWord with
      | .error e => return .error e
      | .ok head =>
        return .ok ⟨hash, transaction, Confirmation.blocksBetween head transaction.block⟩

/-- An argument that has to be an address. -/
def parseAddress (s : String) : NodeResult Address :=
  (Address.parse s).mapError fun e =>
    .invalidInput ("invalid address '" ++ s ++ "': " ++ e.message)

namespace Client

/-- The state of the chain. -/
def info (c : Client) : Talk (NodeResult ChainState) := chainState c.asset c.channel

/-- What an account holds. -/
def balance (c : Client) (address : String) : Talk (NodeResult Balance) := do
  match parseAddress address with
  | .error e => return .error e
  | .ok account =>
    let reply ← request c.asset balanceOperation c.channel "eth_getBalance"
      [fixedJson account, .text "latest"] (decodeQuantity 256)
    return reply.map fun wei => .single c.asset (toString wei)

/-- A transaction of the chain's own asset. -/
def transactionOf (t : Located) : Transaction where
  id := t.hash.render
  sender := Address.render t.transaction.signer
  recipient := (t.transaction.recipient.map Address.render).getD ""
  value := toString t.transaction.value
  confirmation := .ofObserved t.observed

/-- A transaction. -/
def transaction (c : Client) (id : String) : Talk (NodeResult Transaction) := do
  let located ← locate c.asset c.channel id
  return located.map transactionOf

end Client

namespace Token

/-- The state of the chain, in the token's name. -/
def info (t : Token) : Talk (NodeResult ChainState) := chainState t.asset t.channel

/-- The balance that a contract answers with: thirty-two bytes and no other number of them. -/
def balanceOf (t : Token) (raw : List UInt8) : NodeResult Balance :=
  if raw.length = 32 then .ok (.single t.asset (toString (natOfBytes raw)))
  else
    .error (.failed t.asset balanceOperation
      (.text ("balanceOf returned " ++ toString raw.length ++ " bytes")))

/-- The number of tokens that an account holds. -/
def balance (t : Token) (address : String) : Talk (NodeResult Balance) := do
  match parseAddress address with
  | .error e => return .error e
  | .ok account =>
    let call := Json.ofMembers
      [("to", fixedJson t.contract), ("input", bytesJson (balanceCall account))]
    let reply ← request t.asset balanceOperation t.channel "eth_call" [call, .text "latest"]
      decodeBytes
    return reply.bind t.balanceOf

/-- A movement of tokens as a transaction, if the transaction `id` calls the token's contract for
    one. -/
def transactionOf (t : Token) (id : String) (l : Located) : NodeResult Transaction :=
  if l.transaction.recipient ≠ some t.contract then
    .error (.failed t.asset transactionOperation
      (.text ("transaction " ++ id ++ " is not addressed to " ++ Address.render t.contract)))
  else
    match Transfer.ofCall? l.transaction.signer l.transaction.input with
    | none =>
      .error (.failed t.asset transactionOperation
        (.text ("transaction " ++ id ++ " is not a token transfer")))
    | some transfer =>
      .ok {
        id := l.hash.render
        sender := Address.render transfer.sender
        recipient := Address.render transfer.recipient
        value := toString transfer.amount
        confirmation := .ofObserved l.observed }

/-- A movement of tokens. -/
def transaction (t : Token) (id : String) : Talk (NodeResult Transaction) := do
  let located ← locate t.asset t.channel id
  return located.bind (t.transactionOf id)

end Token

end AssetOracle.Evm
