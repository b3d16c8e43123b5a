/-
Module: LedgerAgent.Operation
Purpose: The kinds of changes that can be made to the ledger, and their names.
Main exports: Operation, Operation.all, Operation.label, Operation.logName
-/

namespace LedgerAgent

/-- A kind of change to the ledger. -/
inductive Operation where
  | createTopic
  | deleteTopic
  | submitTopicMessage
  | transferHbar
  | createToken
  | mintToken
  | mintNft
  | transferToken
  | associateToken
  | dissociateToken
  | airdropToken
  | claimAirdrop
  | rejectToken
  | assetAllowance
deriving Repr, Inhabited, DecidableEq

namespace Operation

def all : List Operation :=
  [.createTopic, .deleteTopic, .submitTopicMessage, .transferHbar, .createToken, .mintToken,
    .mintNft, .transferToken, .associateToken, .dissociateToken, .airdropToken, .claimAirdrop,
    .rejectToken, .assetAllowance]

/-- The name that results carry. -/
def label : Operation → String
  | .createTopic => "CREATE_TOPIC"
  | .deleteTopic => "DELETE_TOPIC"
  | .submitTopicMessage => "SUBMIT_TOPIC_MESSAGE"
  | .transferHbar => "TRANSFER_HBAR"
  | .createToken => "CREATE_TOKEN"
  | .mintToken => "MINT_TOKEN"
  | .mintNft => "MINT_NFT_TOKEN"
  | .transferToken => "TRANSFER_TOKEN"
  | .associateToken => "ASSOCIATE_TOKEN"
  | .dissociateToken => "DISSOCIATE_TOKEN"
  | .airdropToken => "AIRDROP_TOKEN"
  | .claimAirdrop => "CLAIM_AIRDROP"
  | .rejectToken => "REJECT_TOKEN"
  | .assetAllowance => "ASSET_ALLOWANCE"

/-- The name that the log carries. -/
def logName : Operation → String
  | .createTopic => "create_topic"
  | .deleteTopic => "delete_topic"
  | .submitTopicMessage => "submit_topic_message"
  | .transferHbar => "transfer_hbar"
  | .createToken => "create_token"
  | .mintToken => "mint_token"
  | .mintNft => "mint_nft"
  | .transferToken => "transfer_token"
  | .associateToken => "associate_token"
  | .dissociateToken => "dissociate_token"
  | .airdropToken => "airdrop_token"
  | .claimAirdrop => "claim_airdrop"
  | .rejectToken => "reject_token"
  | .assetAllowance => "asset_allowance"

end Operation

end LedgerAgent
