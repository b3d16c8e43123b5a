/-
Module: LedgerAgent.MirrorNode.Entry
Purpose: What a mirror node lists: balances, tokens, messages, airdrops.
Main exports: MirrorNode.TokenBalance, MirrorNode.TokenHolder, MirrorNode.TokenDetails,
  MirrorNode.TopicMessage, MirrorNode.PendingAirdrop, MirrorNodeError
-/
import LedgerAgent.Entity

namespace LedgerAgent

open Json (Decoder)

/-- Why a mirror node gives no answer that can be used. -/
inductive MirrorNodeError where
  | invalidUrl (text : String)
  | request (reason : String)
  | status (code : Nat) (url : String)
  | decode (reason : String)
  | invalidTimestamp (text : String)
  | tooManyPages (limit : Nat)
deriving Repr, Inhabited, DecidableEq

def MirrorNodeError.message : MirrorNodeError → String
  | .invalidUrl text => s!"Invalid mirror node URL: {text}"
  | .request reason => s!"Mirror node request failed: {reason}"
  | .status code url => s!"Mirror node returned HTTP {code} for {url}"
  | .decode reason => s!"Failed to decode mirror node response: {reason}"
  | .invalidTimestamp text => s!"Invalid timestamp `{text}`: expected an ISO-8601 date"
  | .tooManyPages limit => s!"Mirror node listing exceeded {limit} pages"

namespace MirrorNode

structure TokenBalance where
  token : TokenId
  balance : UInt64
deriving Repr, Inhabited, DecidableEq

namespace TokenBalance

def toJson (b : TokenBalance) : Json :=
  .object [("token_id", b.token.toJson), ("balance", .uint64 b.balance)]

def decode : Decoder TokenBalance :=
  Json.record "struct TokenBalanceEntry" ["token_id", "balance"]
    (TokenBalance.mk <$> .required 0 "token_id" EntityId.decode
      <*> .required 1 "balance" Json.decodeUInt64)

end TokenBalance

/-- What an account holds, in the ledger's own currency and in tokens. -/
structure AccountBalance where
  balance : UInt64
  tokens : List TokenBalance
deriving Repr, Inhabited, DecidableEq

def AccountBalance.decode : Decoder AccountBalance :=
  Json.record "struct AccountBalanceEntry" ["balance", "tokens"]
    (AccountBalance.mk <$> .required 0 "balance" Json.decodeUInt64
      <*> .defaulted 1 "tokens" (Json.decodeList TokenBalance.decode) [])

/-- An account that holds a token. -/
structure TokenHolder where
  account : AccountId
  balance : UInt64
  decimals : UInt32
deriving Repr, Inhabited, DecidableEq

namespace TokenHolder

def toJson (h : TokenHolder) : Json :=
  .object [("account", h.account.toJson), ("balance", .uint64 h.balance),
    ("decimals", .uint32 h.decimals)]

def decode : Decoder TokenHolder :=
  Json.record "struct TokenHolder" ["account", "balance", "decimals"]
    (TokenHolder.mk <$> .required 0 "account" EntityId.decode
      <*> .required 1 "balance" Json.decodeUInt64
      <*> .defaulted 2 "decimals" Json.decodeUInt32 0)

end TokenHolder

/-- What is known about a token.  Its decimals are given as text. -/
structure TokenDetails where
  token : TokenId
  name : String
  symbol : String
  decimalsText : String
  tokenType : Option String
  totalSupply : Option String
  maxSupply : Option String
  treasury : Option AccountId
  memo : Option String
deriving Repr, Inhabited, DecidableEq

namespace TokenDetails

def decimals (d : TokenDetails) : Except MirrorNodeError UInt32 :=
  (Text.Numeral.uint32 (Text.trimmed d.decimalsText.toList)).mapError fun _ =>
    .decode s!"token {d.token.toText} has non-numeric decimals `{d.decimalsText}`"

def toJson (d : TokenDetails) : Json :=
  .object [("token_id", d.token.toJson), ("name", .string d.name), ("symbol", .string d.symbol),
    ("decimals", .string d.decimalsText), ("type", Json.nullable .string d.tokenType),
    ("total_supply", Json.nullable .string d.totalSupply),
    ("max_supply", Json.nullable .string d.maxSupply),
    ("treasury_account_id", Json.nullable EntityId.toJson d.treasury),
    ("memo", Json.nullable .string d.memo)]

def decode : Decoder TokenDetails :=
  Json.record "struct TokenDetails"
    ["token_id", "name", "symbol", "decimals", "type", "total_supply", "max_supply",
      "treasury_account_id", "memo"]
    (TokenDetails.mk <$> .required 0 "token_id" EntityId.decode
      <*> .required 1 "name" Json.decodeString
      <*> .required 2 "symbol" Json.decodeString
      <*> .required 3 "decimals" Json.decodeString
      <*> .omissible 4 "type" Json.decodeString
      <*> .omissible 5 "total_supply" Json.decodeString
      <*> .omissible 6 "max_supply" Json.decodeString
      <*> .omissible 7 "treasury_account_id" EntityId.decode
      <*> .omissible 8 "memo" Json.decodeString)

end TokenDetails

structure TopicMessage where
  timestamp : String
  message : String
  sequenceNumber : UInt64
  payer : Option AccountId
  topic : Option TopicId
  runningHash : Option String
deriving Repr, Inhabited, DecidableEq

namespace TopicMessage

def toJson (m : TopicMessage) : Json :=
  .object [("consensus_timestamp", .string m.timestamp), ("message", .string m.message),
    ("sequence_number", .uint64 m.sequenceNumber),
    ("payer_account_id", Json.nullable EntityId.toJson m.payer),
    ("topic_id", Json.nullable EntityId.toJson m.topic),
    ("running_hash", Json.nullable .string m.runningHash)]

def decode : Decoder TopicMessage :=
  Json.record "struct TopicMessage"
    ["consensus_timestamp", "message", "sequence_number", "payer_account_id", "topic_id",
      "running_hash"]
    (TopicMessage.mk <$> .required 0 "consensus_timestamp" Json.decodeString
      <*> .required 1 "message" Json.decodeString
      <*> .required 2 "sequence_number" Json.decodeUInt64
      <*> .omissible 3 "payer_account_id" EntityId.decode
      <*> .omissible 4 "topic_id" EntityId.decode
      <*> .omissible 5 "running_hash" Json.decodeString)

end TopicMessage

/-- An airdrop that waits for its receiver. -/
structure PendingAirdrop where
  amount : UInt64
  receiver : AccountId
  sender : AccountId
  token : TokenId
  serialNumber : Option Int64
  timestamp : Option Json

namespace PendingAirdrop

def toJson (p : PendingAirdrop) : Json :=
  .object [("amount", .uint64 p.amount), ("receiver_id", p.receiver.toJson),
    ("sender_id", p.sender.toJson), ("token_id", p.token.toJson),
    ("serial_number", Json.nullable .int64 p.serialNumber),
    ("timestamp", p.timestamp.getD .null)]

def decode : Decoder PendingAirdrop :=
  Json.record "struct PendingAirdrop"
    ["amount", "receiver_id", "sender_id", "token_id", "serial_number", "timestamp"]
    (PendingAirdrop.mk <$> .required 0 "amount" Json.decodeUInt64
      <*> .required 1 "receiver_id" EntityId.decode
      <*> .required 2 "sender_id" EntityId.decode
      <*> .required 3 "token_id" EntityId.decode
      <*> .omissible 4 "serial_number" Json.decodeInt64
      <*> .omissible 5 "timestamp" Json.decodeJson)

end PendingAirdrop

/-- A page of a listing: its items and the link to the next page. -/
structure Page (α : Type) where
  items : List α
  next : Option String

def decodeLinks : Decoder (Option String) :=
  Json.record "struct Links" ["next"] (.optional 0 "next" Json.decodeString)

/-- A page from JSON; `name` and `member` say what it lists and where. -/
def Page.decode {α : Type} (name member : String) (item : Decoder α) : Decoder (Page α) :=
  Json.record name [member, "links"]
    (Page.mk <$> .defaulted 0 member (Json.decodeList item) []
      <*> .defaulted 1 "links" decodeLinks none)

/-- A page of accounts with their balances. -/
def balancesPage : Decoder (Page AccountBalance) :=
  Page.decode "struct AccountBalancesPage" "balances" AccountBalance.decode

def holdersPage : Decoder (Page TokenHolder) :=
  Page.decode "struct TokenHoldersPage" "balances" TokenHolder.decode

def messagesPage : Decoder (Page TopicMessage) :=
  Page.decode "struct TopicMessagesPage" "messages" TopicMessage.decode

def airdropsPage : Decoder (Page PendingAirdrop) :=
  Page.decode "struct PendingAirdropsPage" "airdrops" PendingAirdrop.decode

end MirrorNode

end LedgerAgent
