/-
Module: LedgerAgent.Tool.Request
Purpose: What each tool asks of a kit: a change to the ledger, or an answer about it.
Main exports: Request, Request.ofAction, LedgerTool.request
-/
import LedgerAgent.Tool.Description
import LedgerAgent.Tool.Parameters

namespace LedgerAgent

open Json (Fields)
open Parameters (read needed decodeAmount decodeWholeNumber)

/-- A course of exchanges with a mirror node on behalf of a tool. -/
abbrev Lookup := ExceptT ToolError Exchange

/-- What a tool call asks of a kit.  A change is made once, after the exchanges that
settle it; a question is answered by exchanges alone. -/
inductive Request where
  | change (prepare : Lookup Action)
  | question (answer : Lookup Json)

/-- A query as part of a lookup. -/
def Query.inLookup {α : Type} (q : Query α) : Lookup α :=
  ExceptT.mk do return (← q.run).mapError ToolError.kit

/-- A change that needs no exchange to be settled. -/
def Request.ofAction (action : Action) : Request :=
  .change (pure action)

namespace LedgerTool

/-- A good answer with these members. -/
def success (members : List (String × Json)) : Json :=
  Json.sorted (("status", .string "success") :: members)

/-- A list of objects, each with its members in key order. -/
def listed {α : Type} (f : α → Json) (items : List α) : Json :=
  .array (items.map fun a =>
    match f a with
    | .object members => Json.sorted members
    | other => other)

def topicField : Fields TopicId := .required 0 "topicId" EntityId.decode

def tokenField : Fields TokenId := .required 0 "tokenId" EntityId.decode

/-- The one parameter of tools that are about a topic. -/
def topicOnly (input : String) : Except ToolError TopicId :=
  read ["topicId"] topicField input

/-- The one parameter of tools that are about a token. -/
def tokenOnly (input : String) : Except ToolError TokenId :=
  read ["tokenId"] tokenField input

/-- The one parameter, which may be missing, of tools that are about an account. -/
def accountOnly (input : String) : Except ToolError (Option AccountId) :=
  read ["accountId"] (.optional 0 "accountId" EntityId.decode) input

/-- The parameters of a new token. -/
def tokenParameters (input : String) : Except ToolError TokenOptions := do
  let (options, decimals) ← read
    ["name", "symbol", "decimals", "initialSupply", "maxSupply", "isSupplyKey",
      "isMetadataKey", "isAdminKey", "memo", "tokenMetadata"]
    ((fun name symbol (decimals : Option UInt64) initialSupply maxSupply hasSupplyKey
        hasMetadataKey hasAdminKey memo metadata =>
          (⟨name, symbol, .fungibleCommon, decimals.map UInt64.toUInt32, initialSupply,
            maxSupply, hasSupplyKey, hasMetadataKey, hasAdminKey, metadata, memo⟩, decimals))
      <$> .required 0 "name" Json.decodeString
      <*> .required 1 "symbol" Json.decodeString
      <*> .defaulted 2 "decimals" decodeWholeNumber none
      <*> .defaulted 3 "initialSupply" decodeWholeNumber none
      <*> .defaulted 4 "maxSupply" decodeWholeNumber none
      <*> .defaulted 5 "isSupplyKey" Json.decodeBool false
      <*> .defaulted 6 "isMetadataKey" Json.decodeBool false
      <*> .defaulted 7 "isAdminKey" Json.decodeBool false
      <*> .optional 8 "memo" Json.decodeString
      <*> .optional 9 "tokenMetadata" Json.decodeString) input
  if decimals.any fun n => Nat.pow 2 32 ≤ n.toNat then
    .error (.invalid "decimals" Text.NumeralError.tooLarge.message)
  else .ok options

/-- Whom an airdrop goes to, with the amount as it was given. -/
def recipientDecoder : Json.Decoder (AccountId × Option String) :=
  Json.record "struct RecipientParams" ["accountId", "amount"]
    (Prod.mk <$> .required 0 "accountId" EntityId.decode
      <*> .defaulted 1 "amount" decodeAmount none)

/-- The parameters of an airdrop. -/
def airdropParameters (input : String) :
    Except ToolError (TokenId × List (AccountId × String)) := do
  let (token, recipients) ← read ["tokenId", "recipients"]
    (Prod.mk <$> tokenField
      <*> .defaulted 1 "recipients" (Json.decodeList recipientDecoder) []) input
  if recipients.isEmpty then .error (.missingParameter "recipients")
  else
    let wanted ← recipients.mapM fun (account, amount) =>
      (needed "amount" amount).map fun amount => (account, amount)
    return (token, wanted)

/-- Destinations with their amounts in base units. -/
def airdropRecipients (decimals : UInt32) (wanted : List (AccountId × String)) :
    Except ToolError (List AirdropRecipient) :=
  wanted.mapM fun (account, amount) =>
    match Amount.toBaseUnits amount decimals with
    | .error e => .error (.invalid "recipients" e.message)
    | .ok units => .ok ⟨account, units⟩

/-- A holder as the tools tell of it, its balance as people write it. -/
def holderJson (h : MirrorNode.TokenHolder) : Json :=
  Json.sorted [("account", h.account.toJson),
    ("balance", .string (Amount.ofBaseUnits h.balance h.decimals)),
    ("decimals", .uint32 h.decimals)]

/-- What a call of the tool with this input asks of a kit. -/
def request (tool : LedgerTool) (kit : Kit) (input : String) : Except ToolError Request :=
  match tool with
  | .createTopic => do
    let (name, hasSubmitKey) ← read ["name", "isSubmitKey"]
      (Prod.mk <$> .required 0 "name" Json.decodeString
        <*> .defaulted 1 "isSubmitKey" Json.decodeBool false) input
    return .ofAction (.createTopic name hasSubmitKey)
  | .deleteTopic => do
    let topic ← topicOnly input
    return .ofAction (.deleteTopic topic)
  | .submitTopicMessage => do
    let (topic, message) ← read ["topicId", "message"]
      (Prod.mk <$> topicField <*> .required 1 "message" Json.decodeString) input
    return .ofAction (.submitTopicMessage topic message)
  | .topicInfo => do
    let topic ← topicOnly input
    return .question do
      let info ← (kit.topicInfo topic).inLookup
      return success [("message", .string "Topic information retrieved"), ("topicInfo", info)]
  | .topicMessages => do
    let (topic, lower, upper) ← read ["topicId", "lowerThreshold", "upperThreshold"]
      ((fun topic lower upper => (topic, lower, upper)) <$> topicField
        <*> .optional 1 "lowerThreshold" Json.decodeString
        <*> .optional 2 "upperThreshold" Json.decodeString) input
    return .question do
      let messages ← (kit.topicMessages topic lower upper).inLookup
      return success [("message", .string "Topic messages retrieved"),
        ("messages", listed MirrorNode.TopicMessage.toJson messages)]
  | .hbarBalance => do
    let account ← accountOnly input
    return .question do
      let balance ← (kit.hbarBalance account).inLookup
      return success
        [("balance", .string (Amount.ofBaseUnits balance.count Amount.hbarDecimals)),
          ("unit", .string "HBAR")]
  | .transferHbar => do
    let (recipient, amount) ← read ["toAccountId", "amount"]
      (Prod.mk <$> .required 0 "toAccountId" EntityId.decode
        <*> .defaulted 1 "amount" decodeAmount none) input
    let amount ← needed "amount" amount
    match Tinybars.ofDisplay amount with
    | .error e => .error (.invalid "amount" e.message)
    | .ok amount => return .ofAction (.transferHbar recipient amount)
  | .createFungibleToken => do
    let options ← tokenParameters input
    return .ofAction (.createFungibleToken { options with maxSupply := none })
  | .createNonFungibleToken => do
    let options ← tokenParameters input
    return .ofAction (.createNonFungibleToken options)
  | .mintToken => do
    let (token, amount) ← read ["tokenId", "amount"]
      (Prod.mk <$> tokenField <*> .defaulted 1 "amount" decodeWholeNumber none) input
    let amount ← needed "amount" amount
    return .ofAction (.mintToken token amount)
  | .mintNft => do
    let (token, metadata) ← read ["tokenId", "tokenMetadata"]
      (Prod.mk <$> tokenField <*> .required 1 "tokenMetadata" Json.decodeString) input
    return .ofAction (.mintNft token metadata)
  | .transferToken => do
    let (token, recipient, amount) ← read ["tokenId", "toAccountId", "amount"]
      ((fun token recipient amount => (token, recipient, amount)) <$> tokenField
        <*> .required 1 "toAccountId" EntityId.decode
        <*> .defaulted 2 "amount" decodeAmount none) input
    let amount ← needed "amount" amount
    return .change do
      let units ← (kit.tokenUnits token amount).inLookup
      return .transferToken token recipient units
  | .associateToken => do
    let token ← tokenOnly input
    return .ofAction (.associateToken token)
  | .dissociateToken => do
    let token ← tokenOnly input
    return .ofAction (.dissociateToken token)
  | .airdropToken => do
    let (token, wanted) ← airdropParameters input
    return .change do
      let decimals ← (kit.tokenDecimals token).inLookup
      let recipients ← ExceptT.mk (return airdropRecipients decimals wanted)
      return .airdropToken token recipients
  | .claimAirdrop => do
    let (token, sender) ← read ["tokenId", "senderAccountId"]
      (Prod.mk <$> tokenField <*> .required 1 "senderAccountId" EntityId.decode) input
    return .ofAction (.claimAirdrop token sender)
  | .rejectToken => do
    let token ← tokenOnly input
    return .ofAction (.rejectToken token)
  | .tokenBalance => do
    let (token, account) ← read ["tokenId", "accountId"]
      (Prod.mk <$> tokenField <*> .optional 1 "accountId" EntityId.decode) input
    return .question do
      let balance ← (kit.tokenBalance token account).inLookup
      let details ← (kit.tokenDetails token).inLookup
      return success [("balance", .uint64 balance), ("unit", .string details.symbol),
        ("decimals", .string details.decimalsText)]
  | .allTokenBalances => do
    let account ← accountOnly input
    return .question do
      let balances ← (kit.allTokenBalances account).inLookup
      return success [("message", .string "Token balances retrieved"),
        ("balances", listed DetailedBalance.toJson balances)]
  | .tokenHolders => do
    let (token, threshold) ← read ["tokenId", "threshold"]
      (Prod.mk <$> tokenField <*> .defaulted 1 "threshold" decodeAmount none) input
    return .question do
      let floor ← (threshold.mapM (kit.tokenUnits token)).inLookup
      let holders ← (kit.tokenHolders token floor).inLookup
      return success [("message", .string "Token holders retrieved"),
        ("holders", listed holderJson holders)]
  | .pendingAirdrops => do
    let account ← accountOnly input
    return .question do
      let airdrops ← (kit.pendingAirdrops account).inLookup
      return success [("message", .string "Pending airdrop retrieved"),
        ("airdrop", listed MirrorNode.PendingAirdrop.toJson airdrops)]
  | .approveAllowance => do
    let (spender, amount, token) ← read ["spenderAccountId", "amount", "tokenId"]
      ((fun spender amount token => (spender, amount, token))
        <$> .required 0 "spenderAccountId" EntityId.decode
        <*> .defaulted 1 "amount" decodeAmount none
        <*> .optional 2 "tokenId" EntityId.decode) input
    let amount ← needed "amount" amount
    return .change do
      let units ← (kit.assetUnits token amount).inLookup
      return .approveAllowance spender units token

end LedgerTool

end LedgerAgent
