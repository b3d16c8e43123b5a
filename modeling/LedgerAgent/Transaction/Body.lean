/-
Module: LedgerAgent.Transaction.Body
Purpose: What a transaction does, and its JSON form.
Main exports: Body, Body.kind, Body.toJson, Body.decode, TokenCreation, TokenTransfer
-/
import LedgerAgent.Amount
import LedgerAgent.Entity
import LedgerAgent.Key.Basic

namespace LedgerAgent

open Json (Decoder Fields)

/-- Whether the units of a token are alike or each one its own. -/
inductive TokenType where
  | fungibleCommon
  | nonFungibleUnique
deriving Repr, Inhabited, DecidableEq

namespace TokenType

def table : List (String × TokenType) :=
  [("FUNGIBLE_COMMON", .fungibleCommon), ("NON_FUNGIBLE_UNIQUE", .nonFungibleUnique)]

def toJson : TokenType → Json
  | .fungibleCommon => .string "FUNGIBLE_COMMON"
  | .nonFungibleUnique => .string "NON_FUNGIBLE_UNIQUE"

def decode : Decoder TokenType := Json.unitVariant table

end TokenType

/-- Whether a token may be minted without end. -/
inductive SupplyType where
  | infinite
  | finite
deriving Repr, Inhabited, DecidableEq

namespace SupplyType

def table : List (String × SupplyType) :=
  [("INFINITE", .infinite), ("FINITE", .finite)]

def toJson : SupplyType → Json
  | .infinite => .string "INFINITE"
  | .finite => .string "FINITE"

def decode : Decoder SupplyType := Json.unitVariant table

end SupplyType

/-- A credit (positive) or debit (negative) of an account in the ledger's own
currency. -/
structure HbarTransfer where
  account : AccountId
  amount : Int64
deriving Repr, Inhabited, DecidableEq

namespace HbarTransfer

def toJson (t : HbarTransfer) : Json :=
  .object [("accountId", t.account.toJson), ("amount", .int64 t.amount)]

def decode : Decoder HbarTransfer :=
  Json.record "struct HbarTransfer" ["accountId", "amount"]
    (HbarTransfer.mk <$> .required 0 "accountId" EntityId.decode
      <*> .required 1 "amount" Json.decodeInt64)

end HbarTransfer

/-- A credit or debit of an account in a token. -/
structure TokenTransfer where
  token : TokenId
  account : AccountId
  amount : Int64
deriving Repr, Inhabited, DecidableEq

namespace TokenTransfer

def toJson (t : TokenTransfer) : Json :=
  .object [("tokenId", t.token.toJson), ("accountId", t.account.toJson),
    ("amount", .int64 t.amount)]

def decode : Decoder TokenTransfer :=
  Json.record "struct TokenTransfer" ["tokenId", "accountId", "amount"]
    (TokenTransfer.mk <$> .required 0 "tokenId" EntityId.decode
      <*> .required 1 "accountId" EntityId.decode
      <*> .required 2 "amount" Json.decodeInt64)

end TokenTransfer

/-- What a spender may take from an owner in the ledger's own currency. -/
structure HbarAllowance where
  owner : AccountId
  spender : AccountId
  amount : Tinybars
deriving Repr, Inhabited, DecidableEq

namespace HbarAllowance

def toJson (a : HbarAllowance) : Json :=
  .object [("ownerAccountId", a.owner.toJson), ("spenderAccountId", a.spender.toJson),
    ("amount", .uint64 a.amount.count)]

def decode : Decoder HbarAllowance :=
  Json.record "struct HbarAllowance" ["ownerAccountId", "spenderAccountId", "amount"]
    ((fun owner spender amount => ⟨owner, spender, ⟨amount⟩⟩)
      <$> .required 0 "ownerAccountId" EntityId.decode
      <*> .required 1 "spenderAccountId" EntityId.decode
      <*> .required 2 "amount" Json.decodeUInt64)

end HbarAllowance

/-- What a spender may take from an owner in a token. -/
structure TokenAllowance where
  token : TokenId
  owner : AccountId
  spender : AccountId
  amount : UInt64
deriving Repr, Inhabited, DecidableEq

namespace TokenAllowance

def toJson (a : TokenAllowance) : Json :=
  .object [("tokenId", a.token.toJson), ("ownerAccountId", a.owner.toJson),
    ("spenderAccountId", a.spender.toJson), ("amount", .uint64 a.amount)]

def decode : Decoder TokenAllowance :=
  Json.record "struct TokenAllowance"
    ["tokenId", "ownerAccountId", "spenderAccountId", "amount"]
    (TokenAllowance.mk <$> .required 0 "tokenId" EntityId.decode
      <*> .required 1 "ownerAccountId" EntityId.decode
      <*> .required 2 "spenderAccountId" EntityId.decode
      <*> .required 3 "amount" Json.decodeUInt64)

end TokenAllowance

/-- An airdrop that waits for its receiver: who sent it, to whom, and what. -/
structure PendingAirdropId where
  sender : AccountId
  receiver : AccountId
  token : TokenId
deriving Repr, Inhabited, DecidableEq

namespace PendingAirdropId

def toJson (p : PendingAirdropId) : Json :=
  .object [("senderId", p.sender.toJson), ("receiverId", p.receiver.toJson),
    ("tokenId", p.token.toJson)]

def decode : Decoder PendingAirdropId :=
  Json.record "struct PendingAirdropId" ["senderId", "receiverId", "tokenId"]
    (PendingAirdropId.mk <$> .required 0 "senderId" EntityId.decode
      <*> .required 1 "receiverId" EntityId.decode
      <*> .required 2 "tokenId" EntityId.decode)

end PendingAirdropId

/-- A token to be created. -/
structure TokenCreation where
  name : String
  symbol : String
  tokenType : TokenType
  decimals : UInt32
  initialSupply : UInt64
  supplyType : SupplyType
  maxSupply : Option UInt64
  treasury : AccountId
  adminKey : Option PublicKey
  supplyKey : Option PublicKey
  metadataKey : Option PublicKey
  metadata : Option String
  memo : Option String
deriving DecidableEq

namespace TokenCreation

/-- The members of a token creation; absent parts are left out. -/
def members (t : TokenCreation) : List (String × Json) :=
  [("name", .string t.name), ("symbol", .string t.symbol), ("tokenType", t.tokenType.toJson),
    ("decimals", .uint32 t.decimals), ("initialSupply", .uint64 t.initialSupply),
    ("supplyType", t.supplyType.toJson)] ++
  Json.member? "maxSupply" Json.uint64 t.maxSupply ++
  [("treasuryAccountId", t.treasury.toJson)] ++
  Json.member? "adminKey" PublicKey.toJson t.adminKey ++
  Json.member? "supplyKey" PublicKey.toJson t.supplyKey ++
  Json.member? "metadataKey" PublicKey.toJson t.metadataKey ++
  Json.member? "metadata" Json.string t.metadata ++
  Json.member? "memo" Json.string t.memo

/-- The names of the members. -/
def memberNames : List String :=
  ["name", "symbol", "tokenType", "decimals", "initialSupply", "supplyType", "maxSupply",
    "treasuryAccountId", "adminKey", "supplyKey", "metadataKey", "metadata", "memo"]

def decode : Decoder TokenCreation :=
  Json.record "struct TokenCreateBody" memberNames
    (TokenCreation.mk <$> .required 0 "name" Json.decodeString
      <*> .required 1 "symbol" Json.decodeString
      <*> .required 2 "tokenType" TokenType.decode
      <*> .required 3 "decimals" Json.decodeUInt32
      <*> .required 4 "initialSupply" Json.decodeUInt64
      <*> .required 5 "supplyType" SupplyType.decode
      <*> .omissible 6 "maxSupply" Json.decodeUInt64
      <*> .required 7 "treasuryAccountId" EntityId.decode
      <*> .omissible 8 "adminKey" PublicKey.decode
      <*> .omissible 9 "supplyKey" PublicKey.decode
      <*> .omissible 10 "metadataKey" PublicKey.decode
      <*> .omissible 11 "metadata" Json.decodeString
      <*> .omissible 12 "memo" Json.decodeString)

end TokenCreation

/-- What a transaction does. -/
inductive Body where
  | topicCreate (memo : Option String) (adminKey submitKey : Option PublicKey)
  | topicDelete (topic : TopicId)
  | topicMessageSubmit (topic : TopicId) (message : String)
  | cryptoTransfer (hbar : List HbarTransfer) (tokens : List TokenTransfer)
  | tokenCreate (token : TokenCreation)
  | tokenMint (token : TokenId) (amount : UInt64) (metadata : List String)
  | tokenAssociate (account : AccountId) (tokens : List TokenId)
  | tokenDissociate (account : AccountId) (tokens : List TokenId)
  | tokenAirdrop (transfers : List TokenTransfer)
  | tokenClaimAirdrop (airdrops : List PendingAirdropId)
  | tokenReject (owner : AccountId) (tokens : List TokenId)
  | approveAllowance (hbar : List HbarAllowance) (tokens : List TokenAllowance)
deriving DecidableEq

/-- The kinds of transaction bodies. -/
inductive BodyKind where
  | topicCreate
  | topicDelete
  | topicMessageSubmit
  | cryptoTransfer
  | tokenCreate
  | tokenMint
  | tokenAssociate
  | tokenDissociate
  | tokenAirdrop
  | tokenClaimAirdrop
  | tokenReject
  | approveAllowance
deriving Repr, Inhabited, DecidableEq

namespace BodyKind

def table : List (String × BodyKind) :=
  [("topicCreate", .topicCreate), ("topicDelete", .topicDelete),
    ("topicMessageSubmit", .topicMessageSubmit), ("cryptoTransfer", .cryptoTransfer),
    ("tokenCreate", .tokenCreate), ("tokenMint", .tokenMint),
    ("tokenAssociate", .tokenAssociate), ("tokenDissociate", .tokenDissociate),
    ("tokenAirdrop", .tokenAirdrop), ("tokenClaimAirdrop", .tokenClaimAirdrop),
    ("tokenReject", .tokenReject), ("cryptoApproveAllowance", .approveAllowance)]

def label : BodyKind → String
  | .topicCreate => "TopicCreate"
  | .topicDelete => "TopicDelete"
  | .topicMessageSubmit => "TopicMessageSubmit"
  | .cryptoTransfer => "CryptoTransfer"
  | .tokenCreate => "TokenCreate"
  | .tokenMint => "TokenMint"
  | .tokenAssociate => "TokenAssociate"
  | .tokenDissociate => "TokenDissociate"
  | .tokenAirdrop => "TokenAirdrop"
  | .tokenClaimAirdrop => "TokenClaimAirdrop"
  | .tokenReject => "TokenReject"
  | .approveAllowance => "CryptoApproveAllowance"

/-- The tag that names the kind in JSON. -/
def tag : BodyKind → String
  | .topicCreate => "topicCreate"
  | .topicDelete => "topicDelete"
  | .topicMessageSubmit => "topicMessageSubmit"
  | .cryptoTransfer => "cryptoTransfer"
  | .tokenCreate => "tokenCreate"
  | .tokenMint => "tokenMint"
  | .tokenAssociate => "tokenAssociate"
  | .tokenDissociate => "tokenDissociate"
  | .tokenAirdrop => "tokenAirdrop"
  | .tokenClaimAirdrop => "tokenClaimAirdrop"
  | .tokenReject => "tokenReject"
  | .approveAllowance => "cryptoApproveAllowance"

/-- The name of a body of the kind in a message about its length. -/
def recordName (kind : BodyKind) : String :=
  "struct variant TransactionBody::" ++ kind.label

end BodyKind

namespace Body

/-- The kind of a body. -/
def kind : Body → BodyKind
  | .topicCreate .. => .topicCreate
  | .topicDelete .. => .topicDelete
  | .topicMessageSubmit .. => .topicMessageSubmit
  | .cryptoTransfer .. => .cryptoTransfer
  | .tokenCreate .. => .tokenCreate
  | .tokenMint .. => .tokenMint
  | .tokenAssociate .. => .tokenAssociate
  | .tokenDissociate .. => .tokenDissociate
  | .tokenAirdrop .. => .tokenAirdrop
  | .tokenClaimAirdrop .. => .tokenClaimAirdrop
  | .tokenReject .. => .tokenReject
  | .approveAllowance .. => .approveAllowance

def list {α : Type} (f : α → Json) (items : List α) : Json :=
  .array (items.map f)

/-- The members of a body behind its tag. -/
def members : Body → List (String × Json)
  | .topicCreate memo adminKey submitKey =>
    Json.member? "memo" Json.string memo ++
    Json.member? "adminKey" PublicKey.toJson adminKey ++
    Json.member? "submitKey" PublicKey.toJson submitKey
  | .topicDelete topic => [("topicId", topic.toJson)]
  | .topicMessageSubmit topic message =>
    [("topicId", topic.toJson), ("message", .string message)]
  | .cryptoTransfer hbar tokens =>
    [("hbarTransfers", list HbarTransfer.toJson hbar),
      ("tokenTransfers", list TokenTransfer.toJson tokens)]
  | .tokenCreate token => token.members
  | .tokenMint token amount metadata =>
    [("tokenId", token.toJson), ("amount", .uint64 amount),
      ("metadata", list Json.string metadata)]
  | .tokenAssociate account tokens =>
    [("accountId", account.toJson), ("tokenIds", list EntityId.toJson tokens)]
  | .tokenDissociate account tokens =>
    [("accountId", account.toJson), ("tokenIds", list EntityId.toJson tokens)]
  | .tokenAirdrop transfers => [("tokenTransfers", list TokenTransfer.toJson transfers)]
  | .tokenClaimAirdrop airdrops =>
    [("pendingAirdropIds", list PendingAirdropId.toJson airdrops)]
  | .tokenReject owner tokens =>
    [("ownerId", owner.toJson), ("tokenIds", list EntityId.toJson tokens)]
  | .approveAllowance hbar tokens =>
    [("hbarAllowances", list HbarAllowance.toJson hbar),
      ("tokenAllowances", list TokenAllowance.toJson tokens)]

/-- A body as JSON: its tag, then its members. -/
def toJson (body : Body) : Json :=
  .object (("type", .string body.kind.tag) :: body.members)

/-- A body of a kind from what was set aside until the kind was known. -/
def decodeContent (kind : BodyKind) (content : Json.Reading) : Except Json.DecodeError Body :=
  match kind with
  | .topicCreate =>
    Json.record kind.recordName ["memo", "adminKey", "submitKey"]
      (Body.topicCreate <$> .omissible 0 "memo" Json.decodeString
        <*> .omissible 1 "adminKey" PublicKey.decode
        <*> .omissible 2 "submitKey" PublicKey.decode) .setAside content
  | .topicDelete =>
    Json.record kind.recordName ["topicId"]
      (Body.topicDelete <$> .required 0 "topicId" EntityId.decode) .setAside content
  | .topicMessageSubmit =>
    Json.record kind.recordName ["topicId", "message"]
      (Body.topicMessageSubmit <$> .required 0 "topicId" EntityId.decode
        <*> .required 1 "message" Json.decodeString) .setAside content
  | .cryptoTransfer =>
    Json.record kind.recordName ["hbarTransfers", "tokenTransfers"]
      (Body.cryptoTransfer
        <$> .defaulted 0 "hbarTransfers" (Json.decodeList HbarTransfer.decode) []
        <*> .defaulted 1 "tokenTransfers" (Json.decodeList TokenTransfer.decode) [])
      .setAside content
  | .tokenCreate => (TokenCreation.decode .setAside content).map Body.tokenCreate
  | .tokenMint =>
    Json.record kind.recordName ["tokenId", "amount", "metadata"]
      (Body.tokenMint <$> .required 0 "tokenId" EntityId.decode
        <*> .defaulted 1 "amount" Json.decodeUInt64 0
        <*> .defaulted 2 "metadata" (Json.decodeList Json.decodeString) []) .setAside content
  | .tokenAssociate =>
    Json.record kind.recordName ["accountId", "tokenIds"]
      (Body.tokenAssociate <$> .required 0 "accountId" EntityId.decode
        <*> .required 1 "tokenIds" (Json.decodeList EntityId.decode)) .setAside content
  | .tokenDissociate =>
    Json.record kind.recordName ["accountId", "tokenIds"]
      (Body.tokenDissociate <$> .required 0 "accountId" EntityId.decode
        <*> .required 1 "tokenIds" (Json.decodeList EntityId.decode)) .setAside content
  | .tokenAirdrop =>
    Json.record kind.recordName ["tokenTransfers"]
      (Body.tokenAirdrop
        <$> .required 0 "tokenTransfers" (Json.decodeList TokenTransfer.decode))
      .setAside content
  | .tokenClaimAirdrop =>
    Json.record kind.recordName ["pendingAirdropIds"]
      (Body.tokenClaimAirdrop
        <$> .required 0 "pendingAirdropIds" (Json.decodeList PendingAirdropId.decode))
      .setAside content
  | .tokenReject =>
    Json.record kind.recordName ["ownerId", "tokenIds"]
      (Body.tokenReject <$> .required 0 "ownerId" EntityId.decode
        <*> .required 1 "tokenIds" (Json.decodeList EntityId.decode)) .setAside content
  | .approveAllowance =>
    Json.record kind.recordName ["hbarAllowances", "tokenAllowances"]
      (Body.approveAllowance
        <$> .defaulted 0 "hbarAllowances" (Json.decodeList HbarAllowance.decode) []
        <*> .defaulted 1 "tokenAllowances" (Json.decodeList TokenAllowance.decode) [])
      .setAside content

def decode : Decoder Body := fun _ r => do
  let tagged ← Json.tagged "internally tagged enum TransactionBody" "type" BodyKind.table r
  decodeContent tagged.variant tagged.content

end Body

end LedgerAgent
