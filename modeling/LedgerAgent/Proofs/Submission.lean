/-
Module: LedgerAgent.Proofs.Submission
Purpose: What carrying an instruction out does, and what its bytes for signing hold.
Main exports: Transaction.freezeNow_fst, Instruction.Fulfilment, Instruction.ends_carryOut,
  Instruction.unsigned, Instruction.bytesToSign_fst
-/
import LedgerAgent.Proofs.Execution
import LedgerAgent.Proofs.Transaction.RoundTrip
import LedgerAgent.Proofs.Transaction.Lifecycle

namespace LedgerAgent

namespace Transaction

/-- Freezing needs no clock where an identity is there or nobody to make one of. -/
theorem freeze_of_unread {t : Transaction} {source : FreezeSource}
    (unread : (t.id.isNone && source.payer.isSome) = false) (now now' : Instant) :
    t.freeze source now = t.freeze source now' := by
  have same : t.idFrom source now = t.idFrom source now' := by
    cases own : t.id with
    | some id => simp [idFrom, own]
    | none =>
        have nobody : source.payer = none := by simpa [own] using unread
        simp [idFrom, own, nobody]
  rw [idFrom, idFrom] at same
  rw [freeze, freeze, same]

/-- The clock is read only where freezing depends on it, so that freezing goes as of the
next reading in any case. -/
theorem freezeNow_fst (t : Transaction) (source : FreezeSource) (outside : Outside)
    (wire : Wire) :
    (t.freezeNow source outside wire).1 = t.freeze source (outside.clock wire.readings) := by
  cases frozen : t.frozen with
  | true =>
      rw [freeze_of_frozen frozen, freezeNow, if_pos frozen]
      rfl
  | false =>
      rw [freezeNow, if_neg (by simp [frozen])]
      change Ends outside _ wire fun a _ => a = _
      cases read : t.id.isNone && source.payer.isSome with
      | true =>
          rw [if_pos rfl, ends_bind, Exchange.ends_now]
          beta_reduce
          obtain ⟨t', _ | _⟩ := t.freeze source (outside.clock wire.readings) <;> rfl
      | false =>
          rw [if_neg Bool.false_ne_true, ends_bind, ends_pure]
          beta_reduce
          rw [freeze_of_unread read ⟨0, 0⟩ (outside.clock wire.readings)]
          obtain ⟨t', _ | _⟩ := t.freeze source (outside.clock wire.readings) <;> rfl

end Transaction
namespace Instruction

/-- The end of an instruction that a client executes: the failure is told, or the receipt
speaks of success and what it says is told. -/
inductive Fulfilment (i : Instruction) : Except SubmissionError Completion → Prop where
  | failed (e : SubmissionError) : Fulfilment i (.error e)
  | done {response : Response} {receipt : Receipt} {completion : Completion}
      (success : receipt.isSuccess = true) (told : i.completion response receipt = .ok completion) :
      Fulfilment i (.ok completion)

/-- A receipt that tells what an instruction is to bring about completes it. -/
theorem completion_of_tells {i : Instruction} {receipt : Receipt} {entity : Option LedgerEntity}
    (tells : Tells receipt i entity) (response : Response) :
    i.completion response receipt = .ok ⟨receipt.status, response.id.toText, entity⟩ := by
  cases tells with
  | createdTopic given | createdToken given =>
      simp only [completion, Instruction.entity, given, Option.elim_some, Except.map]
  | submitted => rfl
  | plain neither unsubmitted =>
      cases i with
      | createTopic => exact absurd rfl neither.1
      | createToken => exact absurd rfl neither.2
      | submitTopicMessage => exact absurd rfl unsubmitted
      | _ => rfl

/-- The verdict on an instruction settles whether it is fulfilled. -/
theorem fulfilment_of_verdict {i : Instruction} {executed : Except ClientError Response}
    {received : Option (Except ClientError Receipt)} {result : Except SubmissionError Completion}
    (verdict : i.Verdict executed received result) : i.Fulfilment result := by
  cases verdict with
  | unexecuted | unreceived | unsuccessful | incomplete => exact .failed _
  | done response success tells =>
      exact .done (Receipt.isSuccess_iff.2 success) (completion_of_tells tells response)

/-- Whatever the client does, carrying an instruction out hands its transaction over once. -/
theorem ends_carryOut (i : Instruction) (client : LedgerClient) (outside : Outside)
    (journal : Journal) :
    Ends outside (i.carryOut client) journal fun result after =>
      after.submissions = i.transaction :: journal.submissions ∧ i.Fulfilment result := by
  refine (i.ends_carryOut_verdict client outside journal).mono fun result after course => ?_
  obtain ⟨executed, received, consults, verdict⟩ := course
  refine ⟨?_, fulfilment_of_verdict verdict⟩
  cases consults with
  | refused _ called | accepted _ _ called =>
      rw [Journal.submissions, called]
      rfl

/-- The transaction that is handed out for an account to sign. -/
def unsigned (i : Instruction) (account : AccountId) (nodes : List AccountId) (now : Instant) :
    Transaction :=
  { i.transaction with
    id := some (.generate account now)
    nodes := nodes
    maxFee := some defaultMaxFee
    frozen := true }

/-- The bytes for an account to sign are those of the transaction in its name as of the
next reading of the clock; without nodes there are none. -/
theorem bytesToSign_fst (i : Instruction) (source : FreezeSource) (account : AccountId)
    (outside : Outside) (wire : Wire) :
    (i.bytesToSign source (some account) outside wire).1 =
      if source.nodes = [] then .error (.refused (.freeze .noNodes))
      else .ok (i.unsigned account source.nodes (outside.clock wire.readings)).encoded := by
  change Ends outside _ wire fun a _ => a = _
  rw [bytesToSign]
  simp only [ends_bind, Exchange.ends_log, Option.mapM_some, ends_map, Exchange.ends_now,
    ends_pure]
  -- the identity is there, so that freezing settles on it and depends on the nodes alone
  have settled := Transaction.freeze_cases
    (t := { i.transaction with id := some (.generate account (outside.clock wire.readings)) })
    rfl source (outside.clock (wire.readings + 1))
  rw [Ends, Transaction.freezeNow_fst]
  obtain ⟨nobody, -⟩ | ⟨id, known, ⟨nowhere, refused⟩ | ⟨somewhere, frozen⟩⟩ := settled
  · cases nobody
  · change source.nodes = [] at nowhere
    rw [refused, if_pos nowhere]
    rfl
  · change source.nodes ≠ [] at somewhere
    rw [frozen, if_neg somewhere]
    cases known
    rfl

end Instruction

end LedgerAgent
