/-
Module: LedgerAgent.Tool.Basic
Purpose: Tools that take text and give text, whatever happens.
Main exports: Tool, Tool.logged, LedgerTool.call, LedgerTool.withKit
-/
import LedgerAgent.Text.Quoted
import LedgerAgent.Tool.Request

namespace LedgerAgent

/-- Something that a language model may call.  A call is given who is to sign, if
the caller says so, and the input; its answer is text in any case. -/
structure Tool where
  name : String
  description : String
  call : Option Bool → String → Session String

/-- Text as the log shows it: all of it up to a hundred characters, else the first
hundred and how many there are. -/
def summarize (text : String) : String :=
  if text.length ≤ 100 then text
  else String.ofList (text.toList.take 100) ++ s!"... ({text.length} chars)"

/-- A mode as the log shows it. -/
def modeText : Option Bool → String
  | none => "None"
  | some b => s!"Some({flagText b})"

/-- The tool with every call and its answer told in the log. -/
def Tool.logged (tool : Tool) : Tool :=
  { tool with
    call := fun mode input => do
      (Exchange.log .info "Tool called"
        [("tool", tool.name), ("custodial", modeText mode), ("input", summarize input)]).inSession
      let output ← tool.call mode input
      (Exchange.log .info "Tool finished"
        [("tool", tool.name), ("result", summarize output)]).inSession
      return output }

/-- Fulfil a request in a mode. -/
def Request.fulfil (request : Request) (kit : Kit) (mode : Option Bool) :
    ExceptT ToolError Session Json :=
  match request with
  | .question answer => ExceptT.mk answer.run.inSession
  | .change prepare => do
    let action ← ExceptT.mk prepare.run.inSession
    let outcome ← ExceptT.mk do return (← (kit.perform action mode).run).mapError ToolError.kit
    return outcome.answer

namespace LedgerTool

/-- Carry a call out, up to its answer or its error. -/
def run (tool : LedgerTool) (kit : Kit) (mode : Option Bool) (input : String) :
    ExceptT ToolError Session Json :=
  match tool.request kit input with
  | .error e => throw e
  | .ok request => request.fulfil kit mode

/-- Answer a call; an error is told in the log and becomes an answer too. -/
def call (tool : LedgerTool) (kit : Kit) (mode : Option Bool) (input : String) :
    Session String := do
  match ← (tool.run kit mode input).run with
  | .ok answer => return answer.render
  | .error e =>
    (Exchange.log .warn "Tool call failed"
      [("tool", tool.name), ("code", e.code), ("error", e.message)]).inSession
    return e.answer.render

def withKit (tool : LedgerTool) (kit : Kit) : Tool :=
  ⟨tool.name, tool.description, tool.call kit⟩

end LedgerTool

end LedgerAgent
