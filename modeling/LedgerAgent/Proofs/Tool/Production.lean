/-
Module: LedgerAgent.Proofs.Tool.Production
Purpose: The transactions that tool calls produce: handed over for execution, or handed out
  as bytes to sign.
Main exports: LedgerTool.handedOut?, LedgerTool.Produces, LedgerTool.exists_of_produces,
  LedgerTool.produces_or_fails, LedgerTool.produces_unique, LedgerTool.produces_of_settled
-/
import LedgerAgent.Proofs.Json.Canonical
import LedgerAgent.Proofs.Tool.Submission

namespace LedgerAgent

open Json (Fits maxDepth)

namespace LedgerTool

/-! ### Bytes in an answer -/

/-- The transaction that somebody finds who is given an answer with bytes to sign. -/
def handedOut? (answer : String) : Option Transaction :=
  match Json.parse answer with
  | .error _ => none
  | .ok v =>
    match v.get? "txBytes" with
    | some (.string text) => Transaction.ofEncoded? text
    | _ => none

theorem handedOut?_error (e : ToolError) : handedOut? e.answer.render = none := by
  have value : e.answer.toReading.value = e.answer := by
    rw [ToolError.answer_eq]
    rfl
  rw [handedOut?, Json.parse_render e.fits_answer, value, ToolError.answer_eq]
  rfl

theorem handedOut?_completed (operation : Operation) (c : Completion) :
    handedOut? (Outcome.completed operation c).answer.render = none := by
  have value : (Outcome.completed operation c).answer.toReading.value =
      (Outcome.completed operation c).answer := by
    rw [Outcome.completed_answer_eq]
    obtain ⟨status, id, _ | (_ | _)⟩ := c <;> rfl
  rw [handedOut?, Json.parse_render (Outcome.fits_completed operation c), value,
    Outcome.completed_answer_eq]
  obtain ⟨status, id, _ | (_ | _)⟩ := c <;> rfl

/-- What is to be signed is handed out. -/
theorem handedOut?_unsigned (operation : Operation) (text : String) :
    handedOut? (Outcome.unsigned operation text).answer.render = Transaction.ofEncoded? text := by
  have answer : (Outcome.unsigned operation text).answer =
      .object [("message", .string operation.bytesMessage), ("status", .string "success"),
        ("txBytes", .string text)] := rfl
  have fits : Fits maxDepth (Outcome.unsigned operation text).answer := by
    rw [answer]
    simp [Fits, Json.MembersFit, maxDepth]
  have value : (Outcome.unsigned operation text).answer.toReading.value =
      (Outcome.unsigned operation text).answer := by
    rw [answer]
    rfl
  rw [handedOut?, Json.parse_render fits, value, answer]
  rfl

/-! ### Produced transactions -/

variable {tool : LedgerTool} {kit : Kit} {mode : Option Bool} {input : String}
  {outside : Outside} {journal : Journal} {t : Transaction}

/-- A call hands a transaction over for execution, or hands it out as bytes to sign. -/
def Produces (tool : LedgerTool) (kit : Kit) (mode : Option Bool) (input : String)
    (outside : Outside) (journal : Journal) (t : Transaction) : Prop :=
  Ends outside (tool.call kit mode input) journal fun answer after =>
    after.submissions = t :: journal.submissions ∨ handedOut? answer = some t

/-- A call fails: its answer is that of an error. -/
def Fails (tool : LedgerTool) (kit : Kit) (mode : Option Bool) (input : String)
    (outside : Outside) (journal : Journal) : Prop :=
  Ends outside (tool.call kit mode input) journal fun answer _ =>
    ∃ e : ToolError, answer = e.answer.render

/-- What comes of a change: an error and no transaction, or one transaction with the body of
the instruction that the change is for its actor, either handed over or handed out. -/
inductive Yield (kit : Kit) (mode : Option Bool) (action : Action) (answer : String) :
    List Transaction → Prop where
  | failure (e : ToolError) (told : answer = e.answer.render) : Yield kit mode action answer []
  | submission {actor : Actor} {i : Instruction} {t : Transaction}
      (acting : kit.actor? mode = some actor) (settled : action.instruction actor = .ok i)
      (body : t.body = i.body) (nothing : handedOut? answer = none) :
      Yield kit mode action answer [t]
  | bytes {actor : Actor} {i : Instruction} {t : Transaction}
      (acting : kit.actor? mode = some actor) (settled : action.instruction actor = .ok i)
      (body : t.body = i.body) (found : handedOut? answer = some t) :
      Yield kit mode action answer []

/-- A conclusion of a change yields what is handed over or handed out, and no more. -/
theorem yield_of_conclusion {action : Action} {now : Instant} {result : Except KitError Outcome}
    {submitted : List Transaction} (clock : now.WithinSecond)
    (concluded : kit.Conclusion action mode now result submitted) :
    Yield kit mode action (answered ((result.mapError ToolError.kit).map Outcome.answer))
      submitted := by
  cases concluded with
  | nobody | unsound | nowhere => exact .failure _ rfl
  | executed acting operated settled fulfilled =>
      refine .submission acting settled rfl ?_
      cases fulfilled with
      | failed e => exact handedOut?_error _
      | done success told => exact handedOut?_completed _ _
  | @handedOut actor i acting unoperated settled nodes =>
      refine .bytes (t := i.unsigned kit.account kit.client.source.nodes now) acting settled rfl ?_
      exact (handedOut?_unsigned _ _).trans (Transaction.ofEncoded?_encoded rfl rfl clock)

/-- A call whose request is a change fails without a transaction, or the change is settled
and something comes of it. -/
theorem ends_change (changing : ∀ question, tool.request kit input ≠ .ok (.question question))
    (clock : ∀ reading, (outside.clock reading).WithinSecond) :
    Ends outside (tool.call kit mode input) journal fun answer after =>
      ∃ submitted, after.submissions = submitted ++ journal.submissions ∧
        ((submitted = [] ∧ ∃ e : ToolError, answer = e.answer.render) ∨
          ∃ prepare action, tool.request kit input = .ok (.change prepare) ∧
            (prepare.run outside journal.wire).1 = .ok action ∧
            Yield kit mode action answer submitted) := by
  refine ends_call.mono fun answer after ⟨result, submitted, concluded, told, put⟩ => ?_
  refine ⟨submitted, put, ?_⟩
  rw [told]
  cases concluded with
  | misasked misread => exact .inl ⟨rfl, _, rfl⟩
  | answered asked found => exact absurd asked (changing _)
  | unsettled asked failed => exact .inl ⟨rfl, _, rfl⟩
  | performed asked settled concluded =>
      exact .inr ⟨_, _, asked, settled, yield_of_conclusion (clock _) concluded⟩

/-- Of all that comes of a change, a transaction is produced in one way only, and it has the body
of an instruction that the change is for its actor. -/
theorem Yield.of_produced {action : Action} {answer : String} {submitted before : List Transaction}
    (yielded : Yield kit mode action answer submitted)
    (produced : submitted ++ before = t :: before ∨ handedOut? answer = some t) :
    ((submitted = [t] ∧ handedOut? answer = none) ∨
      (submitted = [] ∧ handedOut? answer = some t)) ∧
      ∃ actor i, kit.actor? mode = some actor ∧ action.instruction actor = .ok i ∧
        t.body = i.body := by
  cases yielded with
  | failure e told =>
      rw [told, handedOut?_error] at produced
      simp at produced
  | submission acting made body nothing =>
      rw [nothing] at produced
      obtain same | ⟨⟨⟩⟩ := produced
      obtain rfl := (List.cons.inj same).1
      exact ⟨.inl ⟨rfl, nothing⟩, _, _, acting, made, body⟩
  | bytes acting made body found =>
      rw [found] at produced
      obtain same | same := produced
      · simp at same
      · obtain rfl := Option.some.inj same
        exact ⟨.inr ⟨rfl, found⟩, _, _, acting, made, body⟩

/-- A produced transaction has the body of an instruction that a settled change is for its
actor. -/
theorem exists_of_produces
    (changing : ∀ question, tool.request kit input ≠ .ok (.question question))
    (clock : ∀ reading, (outside.clock reading).WithinSecond)
    (produced : tool.Produces kit mode input outside journal t) :
    ∃ prepare action actor i, tool.request kit input = .ok (.change prepare) ∧
      (prepare.run outside journal.wire).1 = .ok action ∧ kit.actor? mode = some actor ∧
      action.instruction actor = .ok i ∧ t.body = i.body := by
  obtain ⟨submitted, put, ⟨rfl, e, told⟩ | ⟨prepare, action, asked, settled, yielded⟩⟩ :=
    @ends_change tool kit mode input outside journal changing clock
  · rw [Produces, Ends, put, told, handedOut?_error] at produced
    simp at produced
  · rw [Produces, Ends, put] at produced
    obtain ⟨-, actor, i, acting, made, body⟩ := yielded.of_produced produced
    exact ⟨prepare, action, actor, i, asked, settled, acting, made, body⟩

/-- A call whose request is a change produces a transaction, or fails. -/
theorem produces_or_fails (changing : ∀ question, tool.request kit input ≠ .ok (.question question))
    (clock : ∀ reading, (outside.clock reading).WithinSecond) :
    (∃ t, tool.Produces kit mode input outside journal t) ∨
      tool.Fails kit mode input outside journal := by
  obtain ⟨submitted, put, ⟨rfl, e, told⟩ | ⟨prepare, action, asked, settled, yielded⟩⟩ :=
    @ends_change tool kit mode input outside journal changing clock
  · exact .inr ⟨e, told⟩
  · cases yielded with
    | failure e told => exact .inr ⟨e, told⟩
    | submission acting made body nothing => exact .inl ⟨_, .inl put⟩
    | bytes acting made body found => exact .inl ⟨_, .inr found⟩

/-- A call whose request is a change fails if it produces nothing. -/
theorem fails_of_unproduced
    (changing : ∀ question, tool.request kit input ≠ .ok (.question question))
    (clock : ∀ reading, (outside.clock reading).WithinSecond)
    (unproduced : ∀ t, ¬ tool.Produces kit mode input outside journal t) :
    tool.Fails kit mode input outside journal := by
  obtain ⟨t, produced⟩ | failing := produces_or_fails changing clock
  · exact absurd produced (unproduced t)
  · exact failing

/-- A call whose request is a change produces one transaction at most. -/
theorem produces_unique (changing : ∀ question, tool.request kit input ≠ .ok (.question question))
    (clock : ∀ reading, (outside.clock reading).WithinSecond) {t' : Transaction}
    (produced : tool.Produces kit mode input outside journal t)
    (produced' : tool.Produces kit mode input outside journal t') : t = t' := by
  obtain ⟨submitted, put, ⟨rfl, e, told⟩ | ⟨prepare, action, -, -, yielded⟩⟩ :=
    @ends_change tool kit mode input outside journal changing clock
  · rw [Produces, Ends, put, told, handedOut?_error] at produced
    simp at produced
  · rw [Produces, Ends, put] at produced produced'
    obtain ⟨⟨rfl, -⟩ | ⟨rfl, found⟩, -⟩ := yielded.of_produced produced
    · obtain ⟨⟨same, -⟩ | ⟨other, -⟩, -⟩ := yielded.of_produced produced'
      · exact (List.cons.inj same).1
      · cases other
    · obtain ⟨⟨other, -⟩ | ⟨-, found'⟩, -⟩ := yielded.of_produced produced'
      · cases other
      · exact Option.some.inj (found.symm.trans found')

/-- A settled change of which an instruction can be made is handed over for the operator, or
handed out to a user for whom the client has nodes. -/
theorem produces_of_settled {prepare : Lookup Action} {action : Action} {actor : Actor}
    {i : Instruction} (asked : tool.request kit input = .ok (.change prepare))
    (settled : (prepare.run outside journal.wire).1 = .ok action)
    (acting : kit.actor? mode = some actor) (made : action.instruction actor = .ok i)
    (nodes : kit.client.nodes ≠ [])
    (clock : ∀ reading, (outside.clock reading).WithinSecond) :
    ∃ t, tool.Produces kit mode input outside journal t ∧ t.body = i.body := by
  obtain ⟨result, submitted, concluded, told, put⟩ :=
    @ends_call tool kit mode input outside journal
  cases concluded with
  | misasked misread => cases asked.symm.trans misread
  | answered asked' found => cases asked.symm.trans asked'
  | unsettled asked' failed =>
      cases asked.symm.trans asked'
      cases settled.symm.trans failed
  | @performed _ _ reading _ _ asked' settled' concluded =>
      cases asked.symm.trans asked'
      cases settled.symm.trans settled'
      cases concluded with
      | nobody vacant => cases acting.symm.trans vacant
      | unsound acting' refused =>
          cases acting.symm.trans acting'
          cases made.symm.trans refused
      | executed acting' operated made' fulfilled =>
          cases acting.symm.trans acting'
          cases made.symm.trans made'
          exact ⟨i.transaction, .inl put, rfl⟩
      | nowhere acting' unoperated' made' nodeless => exact absurd nodeless nodes
      | handedOut acting' unoperated' made' =>
          cases acting.symm.trans acting'
          cases made.symm.trans made'
          refine ⟨i.unsigned kit.account kit.client.nodes (outside.clock reading), .inr ?_, rfl⟩
          rw [told]
          exact (handedOut?_unsigned _ _).trans (Transaction.ofEncoded?_encoded rfl rfl (clock _))

end LedgerTool

end LedgerAgent
