/-
Module: LedgerAgent.Kit.Query
Purpose: The questions that a kit answers with the help of its mirror node.
Main exports: Kit.hbarBalance, Kit.allTokenBalances, Kit.topicMessages, Kit.tokenUnits,
  Kit.assetUnits, DetailedBalance
-/
import LedgerAgent.Kit.Basic

namespace LedgerAgent

/-- A token balance together with what is known about the token. -/
structure DetailedBalance where
  token : TokenId
  name : String
  symbol : String
  decimals : UInt32
  balance : UInt64
deriving Repr, Inhabited, DecidableEq

/-- A detailed balance as JSON; the balance is given in base units and as people
write it. -/
def DetailedBalance.toJson (b : DetailedBalance) : Json :=
  .object [("tokenId", b.token.toJson), ("tokenName", .string b.name),
    ("tokenSymbol", .string b.symbol), ("tokenDecimals", .uint32 b.decimals),
    ("balance", .uint64 b.balance),
    ("balanceInDisplayUnit", .string (Amount.ofBaseUnits b.balance b.decimals))]

/-- What the mirror node answers. -/
def Query.ofMirror {α : Type} (x : Exchange (Except MirrorNodeError α)) : Query α :=
  ExceptT.mk do return (← x).mapError KitError.mirrorNode

/-- An amount, unless it is none. -/
def Query.ofAmount {α : Type} (x : Except AmountError α) : Query α :=
  ExceptT.mk (return x.mapError KitError.amount)

namespace Kit

/-- The account asked about; the kit's own if none is named. -/
def subject (kit : Kit) (account : Option AccountId) : AccountId :=
  account.getD kit.account

def hbarBalance (kit : Kit) (account : Option AccountId) : Query Tinybars := do
  return ⟨← Query.ofMirror (kit.mirror.hbarBalance (kit.subject account))⟩

def tokenBalance (kit : Kit) (token : TokenId) (account : Option AccountId) : Query UInt64 :=
  Query.ofMirror (kit.mirror.tokenBalance token (kit.subject account))

def tokenDetails (kit : Kit) (token : TokenId) : Query MirrorNode.TokenDetails :=
  Query.ofMirror (kit.mirror.tokenDetails token)

/-- A balance together with the details of its token. -/
def detailed (kit : Kit) (entry : MirrorNode.TokenBalance) : Query DetailedBalance := do
  let details ← kit.tokenDetails entry.token
  let decimals ← Query.ofMirror (return details.decimals)
  return ⟨entry.token, details.name, details.symbol, decimals, entry.balance⟩

/-- All token balances of an account, with details. -/
def allTokenBalances (kit : Kit) (account : Option AccountId) : Query (List DetailedBalance) := do
  let entries ← Query.ofMirror (kit.mirror.tokenBalances (kit.subject account))
  entries.mapM kit.detailed

def tokenHolders (kit : Kit) (token : TokenId) (threshold : Option UInt64) :
    Query (List MirrorNode.TokenHolder) :=
  Query.ofMirror (kit.mirror.tokenHolders token threshold)

def topicInfo (kit : Kit) (topic : TopicId) : Query Json :=
  Query.ofMirror (kit.mirror.topicInfo topic)

def topicMessages (kit : Kit) (topic : TopicId) (lower upper : Option String) :
    Query (List MirrorNode.TopicMessage) := do
  let lower ← Query.ofMirror (return lower.mapM mirrorTimestamp)
  let upper ← Query.ofMirror (return upper.mapM mirrorTimestamp)
  Query.ofMirror (kit.mirror.topicMessages topic lower upper)

def pendingAirdrops (kit : Kit) (account : Option AccountId) :
    Query (List MirrorNode.PendingAirdrop) :=
  Query.ofMirror (kit.mirror.pendingAirdrops (kit.subject account))

/-- The decimal places of a token's amounts. -/
def tokenDecimals (kit : Kit) (token : TokenId) : Query UInt32 := do
  let details ← kit.tokenDetails token
  Query.ofMirror (return details.decimals)

/-- Base units of a token that an amount means. -/
def tokenUnits (kit : Kit) (token : TokenId) (amount : String) : Query UInt64 := do
  Query.ofAmount (Amount.toBaseUnits amount (← kit.tokenDecimals token))

/-- Base units that an amount means: of a token, or of the ledger's own currency. -/
def assetUnits (kit : Kit) (token : Option TokenId) (amount : String) : Query UInt64 :=
  match token with
  | some token => kit.tokenUnits token amount
  | none => Query.ofAmount (Amount.toBaseUnits amount Amount.hbarDecimals)

end Kit

end LedgerAgent
