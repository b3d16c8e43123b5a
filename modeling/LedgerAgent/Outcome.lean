/-
Module: LedgerAgent.Outcome
Purpose: What an operation leaves: the word that it is done, or bytes to sign.
Main exports: Outcome, Outcome.name, Outcome.toJson, Outcome.answer
-/
import LedgerAgent.Instruction
import LedgerAgent.Text.Lowercase

namespace LedgerAgent

namespace Operation

/-- What is said when the operator's transaction is done. -/
def doneMessage : Operation → String
  | .createTopic => "Topic created"
  | .deleteTopic => "Topic deleted"
  | .submitTopicMessage => "Message submitted"
  | .transferHbar => "HBAR transferred"
  | .createToken => "Token created"
  | .mintToken => "Token minted"
  | .mintNft => "NFT minted"
  | .transferToken => "Token transferred"
  | .associateToken => "Token associated"
  | .dissociateToken => "Token dissociated"
  | .airdropToken => "Token airdropped"
  | .claimAirdrop => "Airdrop claimed"
  | .rejectToken => "Token rejected"
  | .assetAllowance => "Asset allowance created"

/-- The operation as the subject of a sentence. -/
def subject : Operation → String
  | .createTopic => "Topic creation"
  | .deleteTopic => "Topic deletion"
  | .submitTopicMessage => "Submit message to the topic"
  | .transferHbar => "HBAR transfer"
  | .createToken => "Create token"
  | .mintToken => "Token mint"
  | .mintNft => "NFT mint"
  | .transferToken => "Token transfer"
  | .associateToken => "Token association"
  | .dissociateToken => "Token dissociation"
  | .airdropToken => "Token airdrop"
  | .claimAirdrop => "Claim airdrop"
  | .rejectToken => "Token reject"
  | .assetAllowance => "Asset allowance"

/-- What is said when there are bytes to sign. -/
def bytesMessage (o : Operation) : String :=
  s!"{o.subject} transaction bytes have been successfully created."

/-- Transfers of the ledger's own currency and allowances give the status as the
network spells it; all others give it in lower case. -/
def keepsStatus : Operation → Bool
  | .transferHbar => true
  | .assetAllowance => true
  | _ => false

/-- The status of a receipt as a result gives it. -/
def statusText (o : Operation) (status : String) : String :=
  if o.keepsStatus then status else Text.lowercase status

end Operation

/-- The end of an operation: the operator's transaction is done, or there are bytes
for somebody else to sign. -/
inductive Outcome where
  | completed (operation : Operation) (completion : Completion)
  | unsigned (operation : Operation) (bytes : String)
deriving Repr, Inhabited, DecidableEq

namespace Outcome

def operation : Outcome → Operation
  | .completed operation _ => operation
  | .unsigned operation _ => operation

/-- Whether the operator signed. -/
def isCustodial : Outcome → Bool
  | .completed .. => true
  | .unsigned .. => false

/-- The name of the outcome: the operation and who signs. -/
def name (o : Outcome) : String :=
  o.operation.label ++ if o.isCustodial then "_CUSTODIAL" else "_NON_CUSTODIAL"

/-- The completion with its status as the operation gives it. -/
def shown (operation : Operation) (c : Completion) : Completion :=
  { c with status := operation.statusText c.status }

/-- The outcome as JSON: the completion, or the bytes alone. -/
def toJson : Outcome → Json
  | .completed operation c => Json.sorted (shown operation c).members
  | .unsigned _ bytes => .string bytes

/-- The outcome as an answer in words. -/
def answer : Outcome → Json
  | .completed operation c =>
    Json.sorted (("message", .string operation.doneMessage) :: (shown operation c).members)
  | .unsigned operation bytes =>
    Json.sorted [("status", .string "success"), ("txBytes", .string bytes),
      ("message", .string operation.bytesMessage)]

end Outcome

end LedgerAgent
