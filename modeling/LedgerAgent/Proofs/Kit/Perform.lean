/-
Module: LedgerAgent.Proofs.Kit.Perform
Purpose: All that can come of a change that a kit is asked to make.
Main exports: Kit.actor?, Kit.actor?_eq_some_iff, Kit.Conclusion, Kit.ends_perform_operator,
  Kit.ends_perform
-/
import LedgerAgent.Kit.Basic
import LedgerAgent.Proofs.Submission

namespace LedgerAgent

namespace Kit

variable {kit : Kit} {action : Action} {mode : Option Bool} {outside : Outside}
  {journal : Journal}

/-- Whom a call in a mode is for, if there is anybody. -/
def actor? (kit : Kit) (mode : Option Bool) : Option Actor :=
  if mode.getD kit.custodial then kit.operator? else some kit.user

/-- The operator has the account and the key of the kit's client, which has both or counts as
having no operator. -/
theorem operator?_eq_some_iff {actor : Actor} :
    kit.operator? = some actor ↔ ∃ account key, kit.client.operatorAccount = some account ∧
      kit.client.operatorKey = some key ∧ actor = ⟨account, key, true⟩ := by
  rw [operator?]
  cases kit.client.operatorAccount with
  | none => simp
  | some account =>
      cases kit.client.operatorKey with
      | none => simp
      | some key => simp [eq_comm]

/-- A call in which the kit signs is for the client's account and key, every other for the kit's
own. -/
theorem actor?_eq_some_iff {actor : Actor} :
    kit.actor? mode = some actor ↔
      (mode.getD kit.custodial = true ∧ ∃ account key, kit.client.operatorAccount = some account ∧
        kit.client.operatorKey = some key ∧ actor = ⟨account, key, true⟩) ∨
      (mode.getD kit.custodial = false ∧ actor = ⟨kit.account, kit.publicKey, false⟩) := by
  rw [actor?]
  cases mode.getD kit.custodial with
  | true => simp [operator?_eq_some_iff]
  | false => simp [user, eq_comm]

/-- Only the operator signs by itself, and only where the mode asks for it. -/
theorem operator_of_actor {actor : Actor} (acting : kit.actor? mode = some actor)
    (operated : actor.custodial = true) :
    mode.getD kit.custodial = true ∧ kit.operator? = some actor := by
  obtain ⟨custodial, operator⟩ | ⟨-, rfl⟩ := actor?_eq_some_iff.1 acting
  · exact ⟨custodial, operator?_eq_some_iff.2 operator⟩
  · cases operated

/-- Whoever does not sign by itself is the kit's user. -/
theorem user_of_actor {actor : Actor} (acting : kit.actor? mode = some actor)
    (unoperated : actor.custodial = false) : actor = kit.user := by
  obtain ⟨-, _, _, -, -, rfl⟩ | ⟨-, rfl⟩ := actor?_eq_some_iff.1 acting
  · cases unoperated
  · rfl

/-- The ends of a change in a mode: what is told, and what was handed over for execution.
Only for the operator anything is; what the user gets is as of an instant. -/
inductive Conclusion (kit : Kit) (action : Action) (mode : Option Bool) (now : Instant) :
    Except KitError Outcome → List Transaction → Prop where
  | nobody (vacant : kit.actor? mode = none) :
      Conclusion kit action mode now (.error .missingPrivateKey) []
  | unsound {actor : Actor} {e : AmountError} (acting : kit.actor? mode = some actor)
      (refused : action.instruction actor = .error e) :
      Conclusion kit action mode now (.error (.amount e)) []
  | executed {actor : Actor} {i : Instruction} {result : Except SubmissionError Completion}
      (acting : kit.actor? mode = some actor) (operated : actor.custodial = true)
      (settled : action.instruction actor = .ok i) (fulfilled : i.Fulfilment result) :
      Conclusion kit action mode now
        ((result.mapError KitError.submission).map (Outcome.completed i.operation))
        [i.transaction]
  | nowhere {actor : Actor} {i : Instruction} (acting : kit.actor? mode = some actor)
      (unoperated : actor.custodial = false) (settled : action.instruction actor = .ok i)
      (nodeless : kit.client.nodes = []) :
      Conclusion kit action mode now (.error (.submission (.refused (.freeze .noNodes)))) []
  | handedOut {actor : Actor} {i : Instruction} (acting : kit.actor? mode = some actor)
      (unoperated : actor.custodial = false) (settled : action.instruction actor = .ok i)
      (nodes : kit.client.nodes ≠ []) :
      Conclusion kit action mode now
        (.ok (.unsigned i.operation (i.unsigned kit.account kit.client.nodes now).encoded)) []

/-- A conclusion follows, and its transactions come before all that were handed over. -/
def Concludes (kit : Kit) (action : Action) (mode : Option Bool) (now : Instant)
    (journal : Journal) (result : Except KitError Outcome) (after : Journal) : Prop :=
  ∃ submitted, kit.Conclusion action mode now result submitted ∧
    after.submissions = submitted ++ journal.submissions

/-- To find out whom a call is for, no client is called, nothing is sent and no clock read. -/
theorem ends_actor :
    Ends outside (kit.actor mode).inSession journal fun result after =>
      result = (kit.actor? mode).elim (.error .missingPrivateKey) .ok ∧
        after.calls = journal.calls ∧ after.wire.requests = journal.wire.requests ∧
        after.wire.readings = journal.wire.readings := by
  rw [actor, actor?]
  split
  · cases kit.operator? with
    | none => exact ⟨rfl, rfl, rfl, rfl⟩
    | some operator => exact ⟨rfl, rfl, rfl, rfl⟩
  · exact ⟨rfl, rfl, rfl, rfl⟩

/-- The operator signs by itself. -/
theorem operated_of_operator {operator : Actor} (acting : kit.operator? = some operator) :
    operator.custodial = true := by
  obtain ⟨_, _, -, -, rfl⟩ := operator?_eq_some_iff.1 acting
  rfl

/-- A change for the operator fails before anything is sent, or an instruction is carried out. -/
theorem ends_perform_operator {Q : Except KitError Outcome → Journal → Prop}
    (custodial : mode.getD kit.custodial = true)
    (failing : ∀ e after, after.wire.requests = journal.wire.requests →
      after.wire.readings = journal.wire.readings → Q (.error e) after)
    (working : ∀ (i : Instruction) before, before.wire.requests = journal.wire.requests →
      before.wire.readings = journal.wire.readings →
      Ends outside (i.carryOut kit.client) before fun result after =>
        Q ((result.mapError KitError.submission).map (Outcome.completed i.operation)) after) :
    Ends outside (kit.perform action mode).run journal Q := by
  rw [perform, ends_run_bind]
  refine ends_actor.mono ?_
  rintro result before ⟨rfl, -, unasked, unread⟩
  rw [actor?, if_pos custodial]
  cases acting : kit.operator? with
  | none => exact failing _ before unasked unread
  | some operator =>
      rw [Option.elim_some]
      dsimp only
      cases action.instruction operator with
      | error e => exact failing _ before unasked unread
      | ok i =>
          change Ends outside (kit.submit operator i).run before Q
          rw [submit, ends_run_bind, ends_run_lift, Session.ends_log]
          simp only [operated_of_operator acting, if_true, ends_run_bind, ends_run_lift]
          refine (working i (before.tell _) unasked unread).mono ?_
          intro result after told
          cases result with
          | error e => exact told
          | ok completion => exact told

/-- An instruction that is settled concludes its change, whoever submits it. -/
theorem ends_submit {actor : Actor} {i : Instruction} (acting : kit.actor? mode = some actor)
    (settled : action.instruction actor = .ok i) :
    Ends outside (kit.submit actor i).run journal
      (kit.Concludes action mode (outside.clock journal.wire.readings) journal) := by
  rw [submit, ends_run_bind, ends_run_lift, Session.ends_log]
  cases operated : actor.custodial with
  | true =>
      simp only [if_true, ends_run_bind, ends_run_lift]
      refine (i.ends_carryOut kit.client outside _).mono fun result after ⟨put, fulfilled⟩ => ?_
      have concluded : kit.Conclusion action mode (outside.clock journal.wire.readings) _ _ :=
        .executed acting operated settled fulfilled
      cases result with
      | error e => exact ⟨_, concluded, put⟩
      | ok completion => exact ⟨_, concluded, put⟩
  | false =>
      simp only [Bool.false_eq_true, if_false, ends_run_bind, ends_run_lift,
        Session.ends_inSession]
      rw [Ends, Instruction.bytesToSign_fst]
      by_cases nodeless : kit.client.source.nodes = []
      · rw [if_pos nodeless]
        exact ⟨[], .nowhere acting operated settled nodeless, rfl⟩
      · rw [if_neg nodeless]
        exact ⟨[], .handedOut acting operated settled nodeless, rfl⟩

/-- Every change comes to a conclusion. -/
theorem ends_perform :
    Ends outside (kit.perform action mode).run journal
      (kit.Concludes action mode (outside.clock journal.wire.readings) journal) := by
  rw [perform, ends_run_bind]
  refine ends_actor.mono ?_
  rintro result after ⟨rfl, uncalled, -, unread⟩
  have kept : after.submissions = journal.submissions := by
    rw [Journal.submissions, Journal.submissions, uncalled]
  cases acting : kit.actor? mode with
  | none => exact ⟨[], .nobody acting, kept⟩
  | some actor =>
      simp only [Option.elim_some]
      cases settled : action.instruction actor with
      | error e => exact ⟨[], .unsound acting settled, kept⟩
      | ok i =>
          rw [← unread]
          refine (ends_submit acting settled).mono ?_
          rintro result after' ⟨submitted, concluded, put⟩
          exact ⟨submitted, concluded, by rw [put, kept]⟩

end Kit

end LedgerAgent
