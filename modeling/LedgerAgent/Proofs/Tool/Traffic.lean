/-
Module: LedgerAgent.Proofs.Tool.Traffic
Purpose: Which requests a tool call makes that asks for a change: those that settle the change,
  and behind them none but the client's.
Main exports: Kit.Traffic, LedgerTool.traffic_call, LedgerTool.requests_call_misasked
-/
import LedgerAgent.Proofs.Kit.User
import LedgerAgent.Tool.Basic

namespace LedgerAgent

variable {kit : Kit} {mode : Option Bool} {outside : Outside} {journal : Journal}

/-- Behind what was asked for there is nothing, or, where the operator acts, what the client
exchanged that was consulted about an instruction. -/
inductive Kit.Traffic (kit : Kit) (mode : Option Bool) (outside : Outside)
    (asked : List HttpRequest) (after : Journal) : Prop where
  | idle (same : after.wire.requests = asked)
  | working {i : Instruction} {before last : Journal} {executed : Except ClientError Response}
      {received : Option (Except ClientError Receipt)}
      (custodial : mode.getD kit.custodial = true) (start : before.wire.requests = asked)
      (consults : i.Consults kit.client outside before last executed received)
      (logged : last.wire.LogsTo after.wire)

theorem Kit.Traffic.tell {asked : List HttpRequest} {after : Journal}
    (traffic : kit.Traffic mode outside asked after) (event : LogEvent) :
    kit.Traffic mode outside asked (after.tell event) := by
  cases traffic with
  | idle same => exact .idle same
  | working custodial start consults logged =>
      exact .working custodial start consults (logged.tell event)

/-- To make a change, a kit requests nothing by itself. -/
theorem Kit.traffic_perform {action : Action} :
    Ends outside (kit.perform action mode).run journal fun _ after =>
      kit.Traffic mode outside journal.wire.requests after := by
  cases custodial : mode.getD kit.custodial with
  | true =>
      refine ends_perform_operator custodial ?_ ?_
      · intro e after unasked unread
        exact .idle unasked
      · intro i before unasked unread
        refine (i.ends_carryOut_verdict kit.client outside before).mono ?_
        rintro result after ⟨executed, received, consults, -⟩
        exact .working custodial unasked consults (.refl _)
  | false =>
      refine (ends_perform_user custodial).mono ?_
      rintro result after ⟨-, -, unasked, -⟩
      exact .idle unasked

namespace LedgerTool

variable {tool : LedgerTool} {input : String}

/-- A call that asks for nothing sensible requests nothing. -/
theorem requests_call_misasked {e : ToolError} (misread : tool.request kit input = .error e) :
    Ends outside (tool.call kit mode input) journal fun _ after =>
      after.wire.requests = journal.wire.requests := by
  rw [call, run, misread]
  rfl

/-- A call that asks for a change requests what settles the change. -/
theorem traffic_call {prepare : Lookup Action}
    (asked : tool.request kit input = .ok (.change prepare)) :
    Ends outside (tool.call kit mode input) journal fun _ after =>
      kit.Traffic mode outside (prepare.run outside journal.wire).2.requests after := by
  rw [call, ends_bind, run, asked]
  simp only [Request.fulfil, ends_run_bind, ExceptT.run_mk, Session.ends_inSession]
  rw [Ends]
  cases settled : (prepare.run outside journal.wire).1 with
  | error e => exact .idle rfl
  | ok action =>
      simp only [ends_bind]
      refine Kit.traffic_perform.mono ?_
      intro result after traffic
      cases result with
      | error e => exact traffic.tell _
      | ok outcome => exact traffic

end LedgerTool

end LedgerAgent
