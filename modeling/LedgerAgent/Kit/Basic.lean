/-
Module: LedgerAgent.Kit.Basic
Purpose: A kit of ledger client, mirror node and account; acting for that account or
  for the client's operator.
Main exports: Kit, Kit.create, Kit.perform, Actor, Action, Action.instruction, KitError
-/
import LedgerAgent.MirrorNode.Query
import LedgerAgent.Outcome
import LedgerAgent.Submission

namespace LedgerAgent

/-- Why a kit does not do what it is asked to. -/
inductive KitError where
  | missingPrivateKey
  | submission (cause : SubmissionError)
  | client (cause : ClientError)
  | mirrorNode (cause : MirrorNodeError)
  | amount (cause : AmountError)
deriving Repr, Inhabited

namespace KitError

def message : KitError → String
  | .missingPrivateKey =>
    "Private key is missing. To perform custodial action you should pass private key!"
  | .submission cause => cause.message
  | .client cause => cause.message
  | .mirrorNode cause => cause.message
  | .amount cause => s!"Invalid amount: {cause.message}"

def code : KitError → String
  | .missingPrivateKey => "MISSING_PRIVATE_KEY"
  | .submission _ => "TRANSACTION_FAILED"
  | .client _ => "CLIENT_ERROR"
  | .mirrorNode _ => "MIRROR_NODE_ERROR"
  | .amount _ => "INVALID_AMOUNT"

end KitError

/-- A ledger client, a mirror node, the account of the kit's user, and who signs
when a call does not say: the operator (custodial) or the user. -/
structure Kit where
  client : LedgerClient
  mirror : MirrorNode
  account : AccountId
  publicKey : PublicKey
  custodial : Bool

/-- The account and key that a change is made for, and whether that is the
operator's. -/
structure Actor where
  account : AccountId
  publicKey : PublicKey
  custodial : Bool

/-- A change that a kit can make, without saying for whom. -/
inductive Action where
  | createTopic (memo : String) (hasSubmitKey : Bool)
  | deleteTopic (topic : TopicId)
  | submitTopicMessage (topic : TopicId) (message : String)
  | transferHbar (recipient : AccountId) (amount : Tinybars)
  | createFungibleToken (options : TokenOptions)
  | createNonFungibleToken (options : TokenOptions)
  | mintToken (token : TokenId) (amount : UInt64)
  | mintNft (token : TokenId) (metadata : String)
  | transferToken (token : TokenId) (recipient : AccountId) (amount : UInt64)
  | associateToken (token : TokenId)
  | dissociateToken (token : TokenId)
  | airdropToken (token : TokenId) (recipients : List AirdropRecipient)
  | claimAirdrop (token : TokenId) (sender : AccountId)
  | rejectToken (token : TokenId)
  | approveAllowance (spender : AccountId) (amount : UInt64) (token : Option TokenId)

namespace TokenOptions

/-- Options for a token whose units are alike. -/
def fungible (o : TokenOptions) : TokenOptions :=
  { o with tokenType := .fungibleCommon }

/-- Options for a token whose units are each one its own: undivided, none at first,
and with a supply key. -/
def nonFungible (o : TokenOptions) : TokenOptions :=
  { o with
    tokenType := .nonFungibleUnique
    decimals := some 0
    initialSupply := some 0
    hasSupplyKey := true }

end TokenOptions

namespace Action

/-- The instruction that an action is for an actor: all that an account does, owns or
gets is the actor's, and so is every key. -/
def instruction (a : Action) (actor : Actor) : Except AmountError Instruction :=
  match a with
  | .createTopic memo hasSubmitKey => .ok (.createTopic memo actor.publicKey hasSubmitKey)
  | .deleteTopic topic => .ok (.deleteTopic topic)
  | .submitTopicMessage topic message => .ok (.submitTopicMessage topic message)
  | .transferHbar recipient amount => Instruction.transferHbar? actor.account recipient amount
  | .createFungibleToken options =>
    .ok (.createToken options.fungible actor.publicKey actor.account)
  | .createNonFungibleToken options =>
    .ok (.createToken options.nonFungible actor.publicKey actor.account)
  | .mintToken token amount => .ok (.mintToken token amount)
  | .mintNft token metadata => .ok (.mintNft token metadata)
  | .transferToken token recipient amount =>
    Instruction.transferToken? token amount recipient actor.account
  | .associateToken token => .ok (.associateToken token actor.account)
  | .dissociateToken token => .ok (.dissociateToken token actor.account)
  | .airdropToken token recipients => Instruction.airdropToken? token recipients actor.account
  | .claimAirdrop token sender => .ok (.claimAirdrop ⟨sender, actor.account, token⟩)
  | .rejectToken token => .ok (.rejectToken token actor.account)
  | .approveAllowance spender amount token =>
    .ok (.assetAllowance token amount actor.account spender)

end Action

/-- A truth value as the log spells it. -/
def flagText (b : Bool) : String :=
  if b then "true" else "false"

/-- A course of exchanges that may fail. -/
abbrev Query := ExceptT KitError Exchange

/-- A course of exchanges and calls of ledger clients that may fail. -/
abbrev Command := ExceptT KitError Session

def Query.inCommand {α : Type} (q : Query α) : Command α :=
  ExceptT.mk q.run.inSession

instance : MonadLift Query Command := ⟨Query.inCommand⟩

namespace Kit

/-- Put a kit together. -/
def create (client : LedgerClient) (mirror : MirrorNode) (account : AccountId)
    (publicKey : PublicKey) : Exchange Kit := do
  Exchange.log .info "Agent kit initialized"
    [("account_id", account.toText), ("network", client.network.name),
      ("has_operator", flagText client.operatorAccount.isSome)]
  return ⟨client, mirror, account, publicKey, false⟩

/-- The same kit with another answer to who signs when a call does not say. -/
def withMode (kit : Kit) (custodial : Bool) : Exchange Kit := do
  Exchange.log .debug "Default signing mode set" [("custodial", flagText custodial)]
  return { kit with custodial := custodial }

/-- The user of the kit. -/
def user (kit : Kit) : Actor :=
  ⟨kit.account, kit.publicKey, false⟩

/-- The client's operator, if it has one. -/
def operator? (kit : Kit) : Option Actor :=
  match kit.client.operatorAccount, kit.client.operatorKey with
  | some account, some key => some ⟨account, key, true⟩
  | _, _ => none

/-- Whom a call in a mode is for; without a mode the kit's own counts. -/
def actor (kit : Kit) (mode : Option Bool) : Exchange (Except KitError Actor) :=
  if mode.getD kit.custodial then
    match kit.operator? with
    | some operator => return .ok operator
    | none => do
      Exchange.log .error "Private key missing for custodial operation" []
      return .error .missingPrivateKey
  else return .ok kit.user

/-- Carry an instruction out for the operator, or hand its bytes to the user. -/
def submit (kit : Kit) (actor : Actor) (i : Instruction) : Command Outcome := do
  (Exchange.log .info "Submitting operation"
    [("operation", i.operation.label), ("custodial", flagText actor.custodial),
      ("account_id", actor.account.toText)]).inSession
  if actor.custodial then
    match ← i.carryOut kit.client with
    | .error e => throw (.submission e)
    | .ok completion => return .completed i.operation completion
  else
    match ← (i.bytesToSign kit.client.source (some kit.account)).inSession with
    | .error e => throw (.submission e)
    | .ok bytes => return .unsigned i.operation bytes

/-- Make a change in a mode. -/
def perform (kit : Kit) (action : Action) (mode : Option Bool) : Command Outcome := do
  let actor ← ExceptT.mk (kit.actor mode).inSession
  match action.instruction actor with
  | .error e => throw (.amount e)
  | .ok i => kit.submit actor i

end Kit

end LedgerAgent
