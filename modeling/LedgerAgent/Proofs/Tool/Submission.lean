/-
Module: LedgerAgent.Proofs.Tool.Submission
Purpose: All that can come of a tool call, and when it hands a transaction over.
Main exports: ToolError.code_of_render, LedgerTool.Conclusion, LedgerTool.ends_call,
  LedgerTool.AnswersExecution, LedgerTool.submissions_call
-/
import LedgerAgent.Proofs.Json.RoundTrip
import LedgerAgent.Proofs.Kit.Perform
import LedgerAgent.Tool.Basic

namespace LedgerAgent

open Json (Fits maxDepth)

/-! ### Answers told apart -/

theorem ToolError.answer_eq (e : ToolError) :
    e.answer = .object [("code", .string e.code), ("message", .string e.message),
      ("status", .string "error")] :=
  rfl

theorem ToolError.fits_answer (e : ToolError) : Fits maxDepth e.answer := by
  rw [answer_eq]
  simp [Fits, Json.MembersFit, maxDepth]

/-- The text of an error's answer tells its code. -/
theorem ToolError.code_of_render {e e' : ToolError}
    (same : e.answer.render = e'.answer.render) : e.code = e'.code := by
  have answers := Json.bytes_render_inj e.fits_answer e'.fits_answer
    (congrArg Text.bytes same)
  rw [answer_eq, answer_eq] at answers
  injection answers with members
  injection members with first
  simpa using first

theorem Outcome.completed_answer_eq (operation : Operation) (c : Completion) :
    (Outcome.completed operation c).answer =
      .object ([("message", .string operation.doneMessage),
        ("status", .string (operation.statusText c.status))] ++
        (c.entity.map LedgerEntity.member).toList ++ [("txHash", .string c.transactionId)]) := by
  obtain ⟨status, id, _ | (_ | _)⟩ := c <;> rfl

theorem Outcome.fits_completed (operation : Operation) (c : Completion) :
    Fits maxDepth (Outcome.completed operation c).answer := by
  rw [completed_answer_eq]
  obtain ⟨status, id, _ | (_ | _)⟩ := c <;>
    simp [Fits, Json.MembersFit, maxDepth, LedgerEntity.member, EntityId.toJson]

/-- A completion is never told in the words of an error. -/
theorem Outcome.completed_ne_error (operation : Operation) (c : Completion) (e : ToolError) :
    (Outcome.completed operation c).answer.render ≠ e.answer.render := by
  intro same
  have answers := Json.bytes_render_inj (fits_completed operation c) e.fits_answer
    (congrArg Text.bytes same)
  rw [completed_answer_eq, ToolError.answer_eq] at answers
  injection answers with members
  injection members with first
  simp at first

namespace LedgerTool

/-! ### Conclusions of a call -/

/-- What a call is answered, as text. -/
def answered : Except ToolError Json → String
  | .ok answer => answer.render
  | .error e => e.answer.render

variable {tool : LedgerTool} {kit : Kit} {mode : Option Bool} {input : String}
  {outside : Outside} {journal : Journal}

/-- The ends of a tool call: what is answered, and what was handed over for execution.
Only a change hands anything over, after it was settled. -/
inductive Conclusion (tool : LedgerTool) (kit : Kit) (mode : Option Bool) (input : String)
    (outside : Outside) (wire : Wire) : Except ToolError Json → List Transaction → Prop where
  | misasked {e : ToolError} (misread : tool.request kit input = .error e) :
      Conclusion tool kit mode input outside wire (.error e) []
  | answered {answer : Lookup Json} {result : Except ToolError Json}
      (asked : tool.request kit input = .ok (.question answer))
      (found : (answer.run outside wire).1 = result) :
      Conclusion tool kit mode input outside wire result []
  | unsettled {prepare : Lookup Action} {e : ToolError}
      (asked : tool.request kit input = .ok (.change prepare))
      (failed : (prepare.run outside wire).1 = .error e) :
      Conclusion tool kit mode input outside wire (.error e) []
  | performed {prepare : Lookup Action} {action : Action} {reading : Nat}
      {result : Except KitError Outcome} {submitted : List Transaction}
      (asked : tool.request kit input = .ok (.change prepare))
      (settled : (prepare.run outside wire).1 = .ok action)
      (concluded : kit.Conclusion action mode (outside.clock reading) result submitted) :
      Conclusion tool kit mode input outside wire
        ((result.mapError ToolError.kit).map Outcome.answer) submitted

/-- A call ends in the conclusion of what it asks for, having submitted what belongs to that. -/
theorem ends_run :
    Ends outside (tool.run kit mode input).run journal fun result after =>
      ∃ submitted, tool.Conclusion kit mode input outside journal.wire result submitted ∧
        after.submissions = submitted ++ journal.submissions := by
  rw [run]
  cases asked : tool.request kit input with
  | error e => exact ⟨[], .misasked asked, rfl⟩
  | ok request =>
      cases request with
      | question answer => exact ⟨[], .answered asked rfl, rfl⟩
      | change prepare =>
          simp only [Request.fulfil, ends_run_bind, ExceptT.run_mk, Session.ends_inSession]
          rw [Ends]
          cases settled : (prepare.run outside journal.wire).1 with
          | error e => exact ⟨[], .unsettled asked settled, rfl⟩
          | ok action =>
              simp only [ends_bind]
              refine Kit.ends_perform.mono fun result after concluding => ?_
              obtain ⟨submitted, concluded, put⟩ := concluding
              have performed := Conclusion.performed asked settled concluded
              cases result with
              | error e => exact ⟨submitted, performed, put⟩
              | ok outcome => exact ⟨submitted, performed, put⟩

/-- Its answer is the text of that conclusion. -/
theorem ends_call :
    Ends outside (tool.call kit mode input) journal fun answer after =>
      ∃ result submitted,
        tool.Conclusion kit mode input outside journal.wire result submitted ∧
          answer = answered result ∧ after.submissions = submitted ++ journal.submissions := by
  rw [call, ends_bind]
  refine ends_run.mono fun result after ⟨submitted, concluded, put⟩ => ?_
  cases result with
  | ok answer => exact ⟨_, submitted, concluded, rfl, put⟩
  | error e => exact ⟨_, submitted, concluded, rfl, put⟩

/-- The answer to a call whose transaction was handed over: what the operator's
transaction came to, or an error whose code says that it failed. -/
inductive AnswersExecution (i : Instruction) : String → Prop where
  | succeeded {response : Response} {receipt : Receipt} {completion : Completion}
      (success : receipt.isSuccess = true) (told : i.completion response receipt = .ok completion) :
      AnswersExecution i (Outcome.completed i.operation completion).answer.render
  | failed {e : ToolError} (code : e.code = "TRANSACTION_FAILED") :
      AnswersExecution i e.answer.render

/-- A fulfilled instruction is answered as one. -/
theorem answersExecution_of_fulfilment {i : Instruction}
    {result : Except SubmissionError Completion} (fulfilled : i.Fulfilment result) :
    AnswersExecution i (answered
      ((((result.mapError KitError.submission).map (Outcome.completed i.operation)).mapError
        ToolError.kit).map Outcome.answer)) := by
  cases fulfilled with
  | failed e => exact .failed (e := .kit (.submission e)) rfl
  | done success told => exact .succeeded success told

/-- A tool call hands over nothing, or one transaction.  It does so only where the mode
asks for the operator and the client has one, and is then answered with what came of the
transaction; an error with any other code says that nothing was handed over. -/
theorem submissions_call (tool : LedgerTool) (kit : Kit) (mode : Option Bool) (input : String)
    (outside : Outside) (journal : Journal) :
    Ends outside (tool.call kit mode input) journal fun answer after =>
      (after.submissions = journal.submissions ∨
        ∃ i operator, after.submissions = i.transaction :: journal.submissions ∧
          mode.getD kit.custodial = true ∧ kit.operator? = some operator ∧
          AnswersExecution i answer) ∧
      ∀ e : ToolError, answer = e.answer.render → e.code ≠ "TRANSACTION_FAILED" →
        after.submissions = journal.submissions := by
  refine ends_call.mono fun answer after ⟨result, submitted, concluded, told, put⟩ => ?_
  have handed : after.submissions = journal.submissions ∨
      ∃ i operator, after.submissions = i.transaction :: journal.submissions ∧
        mode.getD kit.custodial = true ∧ kit.operator? = some operator ∧
        AnswersExecution i answer := by
    rw [told, put]
    cases concluded with
    | misasked | answered | unsettled => exact .inl rfl
    | performed asked settled concluded =>
        cases concluded with
        | nobody | unsound | nowhere | handedOut => exact .inl rfl
        | executed acting operated settled fulfilled =>
            have ⟨chosen, operator⟩ := Kit.operator_of_actor acting operated
            exact .inr ⟨_, _, rfl, chosen, operator, answersExecution_of_fulfilment fulfilled⟩
  refine ⟨handed, fun e same other => ?_⟩
  obtain kept | ⟨i, operator, -, -, -, execution⟩ := handed
  · exact kept
  · cases execution with
    | succeeded success told => exact absurd same (Outcome.completed_ne_error _ _ e)
    | failed code => exact absurd (ToolError.code_of_render same ▸ code) other

end LedgerTool

end LedgerAgent
