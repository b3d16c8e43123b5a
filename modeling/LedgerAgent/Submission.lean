/-
Module: LedgerAgent.Submission
Purpose: The two ends of an instruction: carried out through a client, or handed out
  as bytes for somebody else to sign.
Main exports: Instruction.carryOut, Instruction.bytesToSign, SubmissionError
-/
import LedgerAgent.Client
import LedgerAgent.Instruction

namespace LedgerAgent

/-- Why an instruction comes to nothing. -/
inductive SubmissionError where
  | refused (cause : TransactionError)
  | execution (cause : ClientError)
  | receipt (cause : ClientError)
  | status (text : String) (id : TransactionId)
  | missingPart (part : ReceiptPart)
deriving Repr, Inhabited

def SubmissionError.message : SubmissionError → String
  | .refused cause => cause.message
  | .execution cause => s!"Transaction failed: {cause.message}"
  | .receipt cause => s!"Transaction failed: receipt unavailable: {cause.message}"
  | .status text _ => s!"Transaction failed with status: {text}"
  | .missingPart part => s!"Transaction failed: receipt has no {part.name}"

/-- Hand a transaction to a client for execution. -/
def LedgerClient.submit (client : LedgerClient) (t : Transaction) :
    Session (Except ClientError Response) := do
  Session.note (.execute t)
  (client.execute t).inSession

def LedgerClient.fetchReceipt (client : LedgerClient) (response : Response) :
    Session (Except ClientError Receipt) := do
  Session.note (.receipt response)
  (client.receipt response).inSession

namespace Instruction

/-- Build the transaction, have the client execute it once, wait for the receipt
and tell what it says.  A receipt whose status does not speak of success is a
failure. -/
def carryOut (i : Instruction) (client : LedgerClient) :
    Session (Except SubmissionError Completion) := do
  let name := ("strategy", i.operation.logName)
  Exchange.log .debug "Building transaction" [name]
  Exchange.log .debug "Executing transaction" [name, ("kind", i.body.kind.label)]
  match ← client.submit i.transaction with
  | .error e =>
    Exchange.log .error "Transaction execution failed" [name, ("error", e.message)]
    return .error (.execution e)
  | .ok response =>
    let id := ("transaction_id", response.id.toText)
    Exchange.log .info "Transaction executed" [name, id, ("node", response.node.toText)]
    match ← client.fetchReceipt response with
    | .error e =>
      Exchange.log .error "Failed to fetch receipt" [name, id, ("error", e.message)]
      return .error (.receipt e)
    | .ok receipt =>
      Exchange.log .info "Receipt received" [name, id, ("status", receipt.status)]
      if receipt.isSuccess then
        return (i.completion response receipt).mapError SubmissionError.missingPart
      else
        Exchange.log .error "Transaction not successful" [name, id, ("status", receipt.status)]
        return .error (.status receipt.status response.id)

/-- Freeze the transaction and give its bytes in base 64.  The payer is the account
given, else the client's operator. -/
def bytesToSign (i : Instruction) (source : FreezeSource) (payer : Option AccountId) :
    Exchange (Except SubmissionError String) := do
  let name := ("strategy", i.operation.logName)
  Exchange.log .debug "Building transaction for external signing" [name]
  let id ← payer.mapM fun account => return TransactionId.generate account (← Exchange.now)
  let (t, frozen) ← Transaction.freezeNow { i.transaction with id := id } source
  match frozen.bind fun _ => t.toBytes with
  | .error e => return .error (.refused e)
  | .ok bytes =>
    Exchange.log .debug "Transaction frozen and serialized"
      [name, ("bytes", toString bytes.length)]
    return .ok (Text.Base64.encode bytes)

end Instruction

end LedgerAgent
