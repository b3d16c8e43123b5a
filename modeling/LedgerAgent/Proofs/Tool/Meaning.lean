/-
Module: LedgerAgent.Proofs.Tool.Meaning
Purpose: What of its input counts for a tool: the parameters that it knows and that are given, not
  how they are written nor what stands beside them.
Main exports: LedgerTool.meant, LedgerTool.request_eq_of_meant, LedgerTool.call_eq_of_meant
-/
import LedgerAgent.Proofs.Tool.Content
import LedgerAgent.Proofs.Tool.Declared

namespace LedgerAgent

open Json (Fields)

open Parameters (Spells isGiven)

namespace LedgerTool

variable {input input' : String} {raw raw' : List (String × Json)}

/-- What the members of an object mean to a tool: those of the keys that it knows that are
something else than `null` or an empty text. -/
def meant (tool : LedgerTool) (raw : List (String × Json)) : List (String × Json) :=
  raw.filter fun m => isGiven m.2 && tool.known.contains m.1

/-- What a tool knows among the members that count is what the input means to it. -/
theorem filter_known (tool : LedgerTool) (raw : List (String × Json)) :
    ((raw.filter fun m => isGiven m.2).filter fun m => tool.known.contains m.1) =
      tool.meant raw := by
  rw [List.filter_filter, meant]
  exact List.filter_congr fun m _ => Bool.and_comm _ _

/-- The parameters that a tool reads are those that the input means to it. -/
theorem read_eq_of_spells {α : Type} (tool : LedgerTool) {fields : Fields α}
    (declares : fields.Declares (tool.parameters.map Parameter.declaration))
    (spells : Spells input raw) :
    Parameters.read tool.known fields input =
      (Json.decodeValue (Json.record "struct Parameters" tool.known fields)
        (.object (tool.meant raw))).mapError ToolError.ofDecode := by
  have kept : ∀ d ∈ tool.parameters.map Parameter.declaration,
      tool.known.contains d.name = true := by
    intro d declared
    obtain ⟨p, among, rfl⟩ := List.mem_map.1 declared
    exact List.contains_iff_mem.2 (List.mem_map_of_mem among)
  rw [Parameters.read_of_given (Parameters.given_of_spells spells),
    Json.decodeValue_filter declares kept, tool.filter_known raw]

/-- Two inputs that mean the same ask the same of a kit. -/
theorem request_eq_of_meant {tool : LedgerTool} (spells : Spells input raw)
    (spells' : Spells input' raw') (same : tool.meant raw = tool.meant raw') (kit : Kit) :
    tool.request kit input = tool.request kit input' := by
  obtain ⟨request, declares, rfl, -⟩ := tool.reads kit
  rw [request, request, tool.read_eq_of_spells declares spells,
    tool.read_eq_of_spells declares spells', same]

/-- Only what an input means counts: two texts whose objects have the same members, but for those
of unknown keys and for `null` and empty texts, are answered alike.  In the same world and after
the same past, the two calls give the same answer and leave the same behind: the same requests,
the same calls of the client and so the same transaction. -/
theorem call_eq_of_meant {tool : LedgerTool} (spells : Spells input raw)
    (spells' : Spells input' raw') (same : tool.meant raw = tool.meant raw') (kit : Kit)
    (mode : Option Bool) (outside : Outside) (journal : Journal) :
    Ends outside (tool.call kit mode input) journal fun answer after =>
      Ends outside (tool.call kit mode input') journal fun answer' after' =>
        answer = answer' ∧ after = after' := by
  have asked := request_eq_of_meant spells spells' same kit
  have alike : tool.call kit mode input = tool.call kit mode input' := by
    rw [call, call, run, run, asked]
  rw [alike]
  exact ⟨rfl, rfl⟩

/-- The members of an input with the same message, with others that do not count beside it. -/
def noisyMembers : List (String × Json) :=
  [("isSubmitKey", .bool true), ("memo", .null), ("message", .string " \né😀"),
    ("topicId", .string "0.0.77")]

theorem call_eq_of_meant_noisy :
    let input := String.ofList (messageText escapes)
    let input' := (Json.object noisyMembers).render
    input ≠ input' ∧
      (submitTopicMessage.call Kit.unoperated none input Kit.cutOff .empty).1 =
        (submitTopicMessage.call Kit.unoperated none input' Kit.cutOff .empty).1 := by
  intro input input'
  have spells : Spells input
      [("message", .string " \né😀"), ("topicId", .string "0.0.77")] :=
    .inr (parse_messageText spelling_escapes)
  have spells' : Spells input' noisyMembers := by
    have fits : Json.Fits Json.maxDepth (.object noisyMembers) := by
      simp [noisyMembers, Json.Fits, Json.MembersFit, Json.maxDepth]
    have solid : Text.trim input' = input' := by decide +kernel
    exact .inr (Json.parse_of_render solid fits rfl)
  have same : submitTopicMessage.meant
      [("message", .string " \né😀"), ("topicId", .string "0.0.77")] =
        submitTopicMessage.meant noisyMembers := rfl
  refine ⟨by decide +kernel, ?_⟩
  exact (call_eq_of_meant spells spells' same Kit.unoperated none Kit.cutOff .empty).1

end LedgerTool

end LedgerAgent
