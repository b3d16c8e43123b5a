/-
Module: LedgerAgent.Transaction.Basic
Purpose: Transactions: editing, freezing, signing, and their byte forms.
Main exports: Transaction, TransactionError, Transaction.freeze, Transaction.sign,
  Transaction.toBytes, Transaction.ofBytes, Transaction.bodyBytes
-/
import LedgerAgent.Network
import LedgerAgent.Transaction.Body

namespace LedgerAgent

open Json (Decoder)

/-- Why a transaction cannot be frozen. -/
inductive FreezeFault where
  | noPayer
  | noNodes
deriving Repr, Inhabited, DecidableEq

def FreezeFault.message : FreezeFault → String
  | .noPayer => "transaction id is not set and the client has no operator"
  | .noNodes => "no node accounts available"

/-- Why a transaction has no bytes, or bytes no transaction. -/
inductive BytesFault where
  | noId
  | notFrozen
  | undecodable (error : Json.DecodeError)
  | idMissing
deriving Repr, Inhabited

def BytesFault.message : BytesFault → String
  | .noId => "transaction is not frozen"
  | .notFrozen => "transaction must be frozen before serialization"
  | .undecodable error => error.message
  | .idMissing => "missing transaction id"

inductive SigningFault where
  | notFrozen
  | key (error : KeyError)
deriving Repr, Inhabited

def SigningFault.message : SigningFault → String
  | .notFrozen => "transaction must be frozen before signing"
  | .key error => error.message

/-- Why an operation on a transaction is refused. -/
inductive TransactionError where
  | frozen
  | freeze (fault : FreezeFault)
  | bytes (fault : BytesFault)
  | signing (fault : SigningFault)
deriving Repr, Inhabited

def TransactionError.message : TransactionError → String
  | .frozen => "Transaction is frozen and can no longer be modified"
  | .freeze fault => s!"Failed to freeze transaction: {fault.message}"
  | .bytes fault => s!"Failed to serialize transaction: {fault.message}"
  | .signing fault => s!"Failed to sign transaction: {fault.message}"

/-- A signature in hexadecimal and the key that made it. -/
structure SignaturePair where
  publicKey : PublicKey
  signature : String
deriving DecidableEq

namespace SignaturePair

def toJson (pair : SignaturePair) : Json :=
  .object [("publicKey", pair.publicKey.toJson), ("signature", .string pair.signature)]

def decode : Decoder SignaturePair :=
  Json.record "struct SignaturePair" ["publicKey", "signature"]
    (SignaturePair.mk <$> .required 0 "publicKey" PublicKey.decode
      <*> .required 1 "signature" Json.decodeString)

end SignaturePair

/-- A transaction.  It is open to edits until it is frozen; from then on it can
only be signed. -/
structure Transaction where
  id : Option TransactionId
  nodes : List AccountId
  maxFee : Option Tinybars
  memo : Option String
  body : Body
  signatures : List SignaturePair
  frozen : Bool
deriving DecidableEq

/-- What freezing a transaction takes from a ledger client: who pays when the
transaction does not say, and the nodes when it names none. -/
structure FreezeSource where
  payer : Option AccountId
  nodes : List AccountId
deriving Repr, Inhabited, DecidableEq

namespace Transaction

/-- A transaction of which only the body is settled. -/
def ofBody (body : Body) : Transaction :=
  ⟨none, [], none, none, body, [], false⟩

/-- A change to a transaction that is still open. -/
def edit (t : Transaction) (change : Transaction → Transaction) :
    Except TransactionError Transaction :=
  if t.frozen then .error .frozen else .ok (change t)

def setId (t : Transaction) (id : TransactionId) : Except TransactionError Transaction :=
  t.edit fun t => { t with id := some id }

def setNodes (t : Transaction) (nodes : List AccountId) : Except TransactionError Transaction :=
  t.edit fun t => { t with nodes := nodes }

def setMaxFee (t : Transaction) (fee : Tinybars) : Except TransactionError Transaction :=
  t.edit fun t => { t with maxFee := some fee }

def setMemo (t : Transaction) (memo : String) : Except TransactionError Transaction :=
  t.edit fun t => { t with memo := some memo }

/-- Fill in what the network needs and close the transaction to edits.  A missing
identity becomes one of the source's payer as of `now`, missing nodes are the
source's, and a missing fee is the default one.  A frozen transaction stays as
it is.  An identity that was filled in stays even if there are no nodes. -/
def freeze (t : Transaction) (source : FreezeSource) (now : Instant) :
    Transaction × Except TransactionError Unit :=
  if t.frozen then (t, .ok ())
  else
    match t.id.or (source.payer.map fun payer => .generate payer now) with
    | none => (t, .error (.freeze .noPayer))
    | some id =>
      let nodes := if t.nodes.isEmpty then source.nodes else t.nodes
      let t := { t with id := some id, nodes := nodes }
      if nodes.isEmpty then (t, .error (.freeze .noNodes))
      else ({ t with maxFee := some (t.maxFee.getD defaultMaxFee), frozen := true }, .ok ())

def signedPart (t : Transaction) (id : TransactionId) : Json :=
  .object ([("transactionId", id.toJson),
    ("nodeAccountIds", Body.list EntityId.toJson t.nodes),
    ("maxTransactionFee", .uint64 (t.maxFee.getD defaultMaxFee).count)] ++
    Json.member? "memo" Json.string t.memo ++ [("body", t.body.toJson)])

/-- The text that signatures cover. -/
def bodyText (t : Transaction) : Except TransactionError String :=
  match t.id with
  | none => .error (.bytes .noId)
  | some id => .ok (t.signedPart id).render

/-- The bytes that signatures cover. -/
def bodyBytes (t : Transaction) : Except TransactionError (List UInt8) :=
  t.bodyText.map Text.bytes

/-- Signatures without those of a key. -/
def withoutKey (key : PublicKey) (signatures : List SignaturePair) : List SignaturePair :=
  signatures.filter fun pair => pair.publicKey ≠ key

/-- Sign a frozen transaction.  A key's new signature takes the place of its old
one and stands last. -/
def sign (t : Transaction) (key : PrivateKey) : Except TransactionError Transaction :=
  if !t.frozen then .error (.signing .notFrozen)
  else
    match t.bodyBytes with
    | .error e => .error e
    | .ok message =>
      match key.sign message with
      | .error e => .error (.signing (.key e))
      | .ok signature =>
        let publicKey := key.publicKey
        let pair : SignaturePair := ⟨publicKey, Text.Hex.encode signature⟩
        .ok { t with signatures := withoutKey publicKey t.signatures ++ [pair] }

def toJson (t : Transaction) : Json :=
  .object (Json.member? "transactionId" TransactionId.toJson t.id ++
    [("nodeAccountIds", Body.list EntityId.toJson t.nodes)] ++
    Json.member? "maxTransactionFee" (fun fee : Tinybars => Json.uint64 fee.count) t.maxFee ++
    Json.member? "memo" Json.string t.memo ++
    [("body", t.body.toJson), ("signatures", Body.list SignaturePair.toJson t.signatures)])

/-- A transaction from JSON.  Text does not say whether it was frozen. -/
def decode : Decoder Transaction :=
  Json.record "struct Transaction"
    ["transactionId", "nodeAccountIds", "maxTransactionFee", "memo", "body", "signatures"]
    ((fun id nodes fee memo body signatures =>
        ⟨id, nodes, fee.map Tinybars.mk, memo, body, signatures, false⟩)
      <$> .omissible 0 "transactionId" TransactionId.decode
      <*> .defaulted 1 "nodeAccountIds" (Json.decodeList EntityId.decode) []
      <*> .omissible 2 "maxTransactionFee" Json.decodeUInt64
      <*> .omissible 3 "memo" Json.decodeString
      <*> .required 4 "body" Body.decode
      <*> .defaulted 5 "signatures" (Json.decodeList SignaturePair.decode) [])

/-- The text of a frozen transaction, signatures included. -/
def toText (t : Transaction) : Except TransactionError String :=
  if t.frozen then .ok t.toJson.render else .error (.bytes .notFrozen)

/-- The bytes of a frozen transaction, signatures included. -/
def toBytes (t : Transaction) : Except TransactionError (List UInt8) :=
  t.toText.map Text.bytes

/-- The frozen transaction that bytes hold. -/
def ofBytes (bs : List UInt8) : Except TransactionError Transaction :=
  match Json.decodeBytes decode bs with
  | .error e => .error (.bytes (.undecodable e))
  | .ok t =>
    if t.id.isNone then .error (.bytes .idMissing) else .ok { t with frozen := true }

end Transaction

/-- A node's word that it took a transaction. -/
structure Response where
  id : TransactionId
  node : AccountId
deriving Repr, Inhabited, DecidableEq

namespace Response

def toJson (r : Response) : Json :=
  .object [("transactionId", r.id.toJson), ("nodeId", r.node.toJson)]

def decode : Decoder Response :=
  Json.record "struct TransactionResponse" ["transactionId", "nodeId"]
    (Response.mk <$> .required 0 "transactionId" TransactionId.decode
      <*> .required 1 "nodeId" EntityId.decode)

end Response

/-- What the network made of a transaction. -/
structure Receipt where
  status : String
  topic : Option TopicId
  token : Option TokenId
  serials : List Int64
deriving Repr, Inhabited, DecidableEq

namespace Receipt

/-- A receipt that says nothing but the status. -/
def ofStatus (status : String) : Receipt :=
  ⟨status, none, none, []⟩

/-- Whether `word` occurs in a text. -/
def mentions (word : List Char) (text : List Char) : Bool :=
  (Text.cutAtText word text).isSome

/-- A status means success if it speaks of it. -/
def isSuccess (r : Receipt) : Bool :=
  mentions "SUCCESS".toList r.status.toList

def toJson (r : Receipt) : Json :=
  .object ([("status", .string r.status)] ++ Json.member? "topicId" EntityId.toJson r.topic ++
    Json.member? "tokenId" EntityId.toJson r.token ++
    (if r.serials.isEmpty then [] else [("serials", Body.list Json.int64 r.serials)]))

def decode : Decoder Receipt :=
  Json.record "struct TransactionReceipt" ["status", "topicId", "tokenId", "serials"]
    (Receipt.mk <$> .required 0 "status" Json.decodeString
      <*> .omissible 1 "topicId" EntityId.decode
      <*> .omissible 2 "tokenId" EntityId.decode
      <*> .defaulted 3 "serials" (Json.decodeList Json.decodeInt64) [])

end Receipt

end LedgerAgent
