/-
Module: LedgerAgent.Client
Purpose: Access to the ledger, and the client that goes through a relay.
Main exports: LedgerClient, ClientError, Operator, Relay, Relay.create, Relay.client
-/
import LedgerAgent.Session
import LedgerAgent.Text.Base64
import LedgerAgent.Url.Parser

namespace LedgerAgent

open Json (Decoder)

/-- Why a ledger client cannot do its work. -/
inductive ClientError where
  | invalidRelayUrl (text : String)
  | missingOperator
  | prepare (cause : TransactionError)
  | request (reason : String)
  | status (code : Nat) (body : String)
  | invalidResponse (reason : String)
deriving Repr, Inhabited

def ClientError.message : ClientError → String
  | .invalidRelayUrl text => s!"Invalid relay URL: {text}"
  | .missingOperator => "Client has no operator; cannot sign"
  | .prepare cause => s!"Failed to prepare transaction: {cause.message}"
  | .request reason => s!"Relay request failed: {reason}"
  | .status code body => s!"Relay returned {code}: {body}"
  | .invalidResponse reason => s!"Invalid relay response: {reason}"

/-- Access to the ledger.  A client may have an operator, in whose name it signs
what it executes. -/
structure LedgerClient where
  network : Network
  nodes : List AccountId
  operatorAccount : Option AccountId
  operatorKey : Option PublicKey
  execute : Transaction → Exchange (Except ClientError Response)
  receipt : Response → Exchange (Except ClientError Receipt)

def LedgerClient.source (client : LedgerClient) : FreezeSource :=
  ⟨client.operatorAccount, client.nodes⟩

/-- The account and key that a client signs with. -/
structure Operator where
  account : AccountId
  key : PrivateKey

/-- A service that takes signed transactions and tells their receipts. -/
structure Relay where
  network : Network
  url : Url
  operator : Option Operator

namespace Relay

/-- The relay at an address.  Its URL must have a path that can be added to. -/
def create (network : Network) (url : String) (operator : Option Operator) :
    Except ClientError Relay :=
  match Url.parse url with
  | .error e => .error (.invalidRelayUrl s!"{url}: {e.message}")
  | .ok parsed =>
    if parsed.hasOpaquePath then .error (.invalidRelayUrl parsed.toText)
    else .ok ⟨network, parsed, operator⟩

/-- The URL of a service of the relay. -/
def endpoint (relay : Relay) (segments : List String) : Url :=
  relay.url.addSegments segments

def source (relay : Relay) : FreezeSource :=
  ⟨relay.operator.map Operator.account, relay.network.nodes⟩

/-- A transaction frozen and signed by the operator, and its bytes. -/
def prepare (relay : Relay) (operator : Operator) (t : Transaction) :
    Exchange (Except ClientError (List UInt8)) := do
  let (t, frozen) ← t.freezeNow relay.source
  return (do
    frozen
    let t ← t.sign operator.key
    t.toBytes).mapError ClientError.prepare

/-- The value that a reply holds.  A refusal is told with the relay's own words, as far
as they are text. -/
def readReply {α : Type} (d : Decoder α) (url : Url) : HttpAnswer → Except ClientError α
  | .unasked => .error (.request (unaskedMessage url))
  | .dropped => .error (.request (droppedMessage url))
  | .reply status body =>
    if !isSuccessStatus status then .error (.status status (Text.lossy body))
    else (Json.decodeBytes d body).mapError fun _ => .invalidResponse undecodableMessage

/-- The relay's word that it took a transaction: two identifiers as plain text. -/
def decodeSubmitted : Decoder (String × String) :=
  Json.record "struct SubmitResponse" ["transactionId", "nodeId"]
    (Prod.mk <$> .required 0 "transactionId" Json.decodeString
      <*> .required 1 "nodeId" Json.decodeString)

/-- The identifiers in the relay's word. -/
def parseSubmitted (submitted : String × String) : Except ClientError Response := do
  let id ← (TransactionId.parse submitted.1).mapError fun e =>
    ClientError.invalidResponse s!"transactionId: {e.message}"
  let node ← (EntityId.parse submitted.2).mapError fun e =>
    ClientError.invalidResponse s!"nodeId: {e.message}"
  return ⟨id, node⟩

/-- Freeze and sign a transaction and hand it to the relay, once. -/
def execute (relay : Relay) (t : Transaction) : Exchange (Except ClientError Response) := do
  match relay.operator with
  | none => return .error .missingOperator
  | some operator =>
    match ← relay.prepare operator t with
    | .error e => return .error e
    | .ok bytes =>
      let url := relay.endpoint ["api", "v1", "transactions"]
      Exchange.log .debug "Submitting transaction to relay"
        [("url", url.toText), ("kind", t.body.kind.label), ("bytes", toString bytes.length)]
      let body := Json.object [("transactionBytes", .string (Text.Base64.encode bytes))]
      let answer ← Exchange.send .post url (some body.render)
      return (readReply decodeSubmitted url answer).bind parseSubmitted

/-- Ask the relay for the receipt of a transaction. -/
def receipt (relay : Relay) (response : Response) : Exchange (Except ClientError Receipt) := do
  let url := relay.endpoint ["api", "v1", "transactions", response.id.toText, "receipt"]
  let answer ← Exchange.send .get url none
  return readReply Receipt.decode url answer

/-- The client that goes through the relay. -/
def client (relay : Relay) : LedgerClient where
  network := relay.network
  nodes := relay.network.nodes
  operatorAccount := relay.operator.map Operator.account
  operatorKey := relay.operator.map fun o => o.key.publicKey
  execute := relay.execute
  receipt := relay.receipt

end Relay

end LedgerAgent
