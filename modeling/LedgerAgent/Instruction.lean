/-
Module: LedgerAgent.Instruction
Purpose: Single changes to the ledger, the transaction bodies they become, and what
  is read off a receipt once they are done.
Main exports: Instruction, Instruction.body, TokenOptions, Completion, LedgerEntity
-/
import LedgerAgent.Operation
import LedgerAgent.Transaction.Basic

namespace LedgerAgent

/-- The wishes for a new token. -/
structure TokenOptions where
  name : String
  symbol : String
  tokenType : TokenType
  decimals : Option UInt32
  initialSupply : Option UInt64
  maxSupply : Option UInt64
  hasSupplyKey : Bool
  hasMetadataKey : Bool
  hasAdminKey : Bool
  metadata : Option String
  memo : Option String
deriving Repr, Inhabited, DecidableEq

/-- One destination of an airdrop. -/
structure AirdropRecipient where
  account : AccountId
  amount : UInt64
deriving Repr, Inhabited, DecidableEq

/-- A change to the ledger with all that it needs.  Amounts that move between
accounts are signed numbers; `transferHbar?` and its like make them. -/
inductive Instruction where
  | createTopic (memo : String) (key : PublicKey) (hasSubmitKey : Bool)
  | deleteTopic (topic : TopicId)
  | submitTopicMessage (topic : TopicId) (message : String)
  | transferHbar (sender recipient : AccountId) (amount : Int64)
  | createToken (options : TokenOptions) (key : PublicKey) (treasury : AccountId)
  | mintToken (token : TokenId) (amount : UInt64)
  | mintNft (token : TokenId) (metadata : String)
  | transferToken (token : TokenId) (amount : Int64) (recipient sender : AccountId)
  | associateToken (token : TokenId) (account : AccountId)
  | dissociateToken (token : TokenId) (account : AccountId)
  | airdropToken (token : TokenId) (recipients : List (AccountId × Int64)) (payer : AccountId)
  | claimAirdrop (airdrop : PendingAirdropId)
  | rejectToken (token : TokenId) (owner : AccountId)
  | assetAllowance (token : Option TokenId) (amount : UInt64) (owner spender : AccountId)

/-- Something on the ledger that a transaction made or was about. -/
inductive LedgerEntity where
  | topic (id : TopicId)
  | token (id : TokenId)
deriving Repr, Inhabited, DecidableEq

/-- The entity as a member of a JSON object. -/
def LedgerEntity.member : LedgerEntity → String × Json
  | .topic id => ("topicId", id.toJson)
  | .token id => ("tokenId", id.toJson)

/-- What is told about a transaction that is done. -/
structure Completion where
  status : String
  transactionId : String
  entity : Option LedgerEntity
deriving Repr, Inhabited, DecidableEq

def Completion.members (c : Completion) : List (String × Json) :=
  [("status", .string c.status), ("txHash", .string c.transactionId)] ++
    (c.entity.map LedgerEntity.member).toList

/-- A part that a receipt should have and has not. -/
inductive ReceiptPart where
  | topic
  | token
deriving Repr, Inhabited, DecidableEq

/-- The part's name in a receipt. -/
def ReceiptPart.name : ReceiptPart → String
  | .topic => "topicId"
  | .token => "tokenId"

namespace TokenOptions

/-- A text unless it is empty. -/
def nonEmpty (text : Option String) : Option String :=
  text.filter fun s => !s.isEmpty

/-- The token that the options describe.  With a most supply the supply is finite;
the keys that are wished for are all the same one; empty texts count as none. -/
def creation (o : TokenOptions) (key : PublicKey) (treasury : AccountId) : TokenCreation where
  name := o.name
  symbol := o.symbol
  tokenType := o.tokenType
  decimals := o.decimals.getD 0
  initialSupply := o.initialSupply.getD 0
  supplyType := if o.maxSupply.isSome then .finite else .infinite
  maxSupply := o.maxSupply
  treasury := treasury
  adminKey := if o.hasAdminKey then some key else none
  supplyKey := if o.hasSupplyKey then some key else none
  metadataKey := if o.hasMetadataKey then some key else none
  metadata := nonEmpty o.metadata
  memo := nonEmpty o.memo

end TokenOptions

namespace Instruction

def operation : Instruction → Operation
  | .createTopic .. => .createTopic
  | .deleteTopic .. => .deleteTopic
  | .submitTopicMessage .. => .submitTopicMessage
  | .transferHbar .. => .transferHbar
  | .createToken .. => .createToken
  | .mintToken .. => .mintToken
  | .mintNft .. => .mintNft
  | .transferToken .. => .transferToken
  | .associateToken .. => .associateToken
  | .dissociateToken .. => .dissociateToken
  | .airdropToken .. => .airdropToken
  | .claimAirdrop .. => .claimAirdrop
  | .rejectToken .. => .rejectToken
  | .assetAllowance .. => .assetAllowance

/-- Move an amount of the ledger's own currency. -/
def transferHbar? (sender recipient : AccountId) (amount : Tinybars) :
    Except AmountError Instruction :=
  (Amount.toSigned amount.count).map (.transferHbar sender recipient)

def transferToken? (token : TokenId) (amount : UInt64) (recipient sender : AccountId) :
    Except AmountError Instruction :=
  (Amount.toSigned amount).map fun n => .transferToken token n recipient sender

/-- The signed amount that goes to each destination of an airdrop. -/
def shares (recipients : List AirdropRecipient) : Except AmountError (List (AccountId × Int64)) :=
  recipients.mapM fun r => (Amount.toSigned r.amount).map fun n => (r.account, n)

/-- Send amounts of a token to accounts that need not have asked for it. -/
def airdropToken? (token : TokenId) (recipients : List AirdropRecipient) (payer : AccountId) :
    Except AmountError Instruction :=
  (shares recipients).map fun shares => .airdropToken token shares payer

/-- The debit of the sender and the credit of the recipient in the ledger's own
currency. -/
def hbarMove (sender recipient : AccountId) (amount : Int64) : List HbarTransfer :=
  [⟨sender, -amount⟩, ⟨recipient, amount⟩]

/-- The debit of the sender and the credit of the recipient in a token. -/
def tokenMove (token : TokenId) (sender recipient : AccountId) (amount : Int64) :
    List TokenTransfer :=
  [⟨token, sender, -amount⟩, ⟨token, recipient, amount⟩]

/-- The body that makes the change. -/
def body : Instruction → Body
  | .createTopic memo key hasSubmitKey =>
    .topicCreate (some memo) (some key) (if hasSubmitKey then some key else none)
  | .deleteTopic topic => .topicDelete topic
  | .submitTopicMessage topic message => .topicMessageSubmit topic message
  | .transferHbar sender recipient amount => .cryptoTransfer (hbarMove sender recipient amount) []
  | .createToken options key treasury => .tokenCreate (options.creation key treasury)
  | .mintToken token amount => .tokenMint token amount []
  | .mintNft token metadata => .tokenMint token 0 [metadata]
  | .transferToken token amount recipient sender =>
    .cryptoTransfer [] (tokenMove token sender recipient amount)
  | .associateToken token account => .tokenAssociate account [token]
  | .dissociateToken token account => .tokenDissociate account [token]
  | .airdropToken token shares payer =>
    .tokenAirdrop (shares.flatMap fun (account, amount) => tokenMove token payer account amount)
  | .claimAirdrop airdrop => .tokenClaimAirdrop [airdrop]
  | .rejectToken token owner => .tokenReject owner [token]
  | .assetAllowance (some token) amount owner spender =>
    .approveAllowance [] [⟨token, owner, spender, amount⟩]
  | .assetAllowance none amount owner spender =>
    .approveAllowance [⟨owner, spender, ⟨amount⟩⟩] []

def transaction (i : Instruction) : Transaction :=
  .ofBody i.body

/-- The entity to tell about: what the receipt says was created, or the topic that
a message went to. -/
def entity (i : Instruction) (receipt : Receipt) : Except ReceiptPart (Option LedgerEntity) :=
  match i with
  | .createTopic .. => receipt.topic.elim (.error .topic) fun id => .ok (some (.topic id))
  | .createToken .. => receipt.token.elim (.error .token) fun id => .ok (some (.token id))
  | .submitTopicMessage topic _ => .ok (some (.topic topic))
  | _ => .ok none

/-- What is told about the change once it is done. -/
def completion (i : Instruction) (response : Response) (receipt : Receipt) :
    Except ReceiptPart Completion :=
  (i.entity receipt).map fun entity => ⟨receipt.status, response.id.toText, entity⟩

end Instruction

end LedgerAgent
