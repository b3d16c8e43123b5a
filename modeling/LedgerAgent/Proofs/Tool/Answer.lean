/-
Module: LedgerAgent.Proofs.Tool.Answer
Purpose: Every tool call is answered with a JSON object, and the status in it tells whether the
  call failed.
Main exports: Operation.statusText_ne_error, Json.States, Lookup.Informs,
  LedgerTool.informs_request, LedgerTool.ends_run_states, LedgerTool.status_call
-/
import LedgerAgent.Proofs.Json.Canonical
import LedgerAgent.Proofs.Json.Rendering
import LedgerAgent.Proofs.Tool.Submission

namespace LedgerAgent

open Json (ElementText Source)

/-! ### What the network says of success -/

/-- The small letter of an ASCII letter stands among the small letters of a text. -/
theorem Text.toLower_mem_lowerFrom {c : Char} {before cs : List Char} (ascii : c.toNat < 128)
    (member : c ∈ cs) : c.toLower ∈ Text.lowerFrom before cs := by
  induction cs generalizing before with
  | nil => cases member
  | cons d rest inductionHypothesis =>
      rw [Text.lowerFrom, List.mem_append]
      rcases List.mem_cons.1 member with rfl | later
      · left
        rw [if_neg (by omega), Text.lowerChar, if_pos ascii]
        exact List.mem_singleton_self _
      · right
        exact inductionHypothesis later

/-- A status that speaks of success is not told as an error, in whatever letters it is told. -/
theorem Operation.statusText_ne_error (operation : Operation) {receipt : Receipt}
    (success : receipt.isSuccess = true) : operation.statusText receipt.status ≠ "error" := by
  obtain ⟨⟨before, after⟩, cut⟩ := Option.isSome_iff_exists.1 success
  have capital : 'S' ∈ receipt.status.toList := by
    rw [Text.eq_of_cutAtText cut]
    simp
  intro same
  rw [statusText] at same
  split at same
  · rw [same] at capital
    exact absurd capital (by decide)
  · have small : 's' ∈ Text.lowerFrom [] receipt.status.toList :=
      Text.toLower_mem_lowerFrom (by decide) capital
    have letters : Text.lowerFrom [] receipt.status.toList = "error".toList := by
      rw [← same, Text.lowercase, String.toList_ofList]
    rw [letters] at small
    exact absurd small (by decide)

/-! ### Objects with a status -/

/-- A value is an object, its keys all different, with a status. -/
inductive Json.States (status : String) : Json → Prop where
  | object {members : List (String × Json)} (distinct : (members.map Prod.fst).Nodup)
      (stated : members.lookup "status" = some (.string status)) :
      States status (.object members)

/-- Of several members with one key the last one counts. -/
theorem Json.states_sorted {status : String} {members : List (String × Json)}
    (stated : members.reverse.lookup "status" = some (.string status)) :
    (Json.sorted members).States status := by
  refine .object (nodup_canonicalMembers members) ?_
  rw [lookup_canonicalMembers]
  exact stated

/-- The text of an object with a status is a JSON text of such an object. -/
theorem Json.States.text {status : String} {v : Json} (states : v.States status) :
    ∃ members : List (String × Source), ElementText v.render.toList (.object members) ∧
      (members.map Prod.fst).Nodup ∧ members.lookup "status" = some (.string status) := by
  cases states with
  | @object members distinct stated =>
      refine ⟨memberSources members, elementText_render _, ?_, ?_⟩
      · rw [keys_memberSources]
        exact distinct
      · rw [lookup_memberSources, stated]
        rfl

/-! ### Answers to questions -/

/-- Whatever a lookup finds, it is told as a success. -/
def Lookup.Informs (x : Lookup Json) : Prop :=
  ∀ outside wire v, (x.run outside wire).1 = .ok v → v.States "success"

/-- A request, where it is a question, is answered with a success. -/
inductive Request.Informs : Request → Prop where
  | change (prepare : Lookup Action) : Informs (.change prepare)
  | question {answer : Lookup Json} (informs : answer.Informs) : Informs (.question answer)

theorem Request.Informs.of_pure {request request' : Request} (informs : request.Informs)
    (asked : (pure request : Except ToolError Request) = .ok request') : request'.Informs :=
  Except.ok.inj asked ▸ informs

namespace LedgerTool

/-- What says nothing of a status is told as a success. -/
theorem informs_success {members : List (String × Json)}
    (unstated : members.reverse.lookup "status" = none) :
    Lookup.Informs (pure (success members)) := by
  intro outside wire v found
  have same : success members = v := Except.ok.inj found
  rw [← same, success]
  apply Json.states_sorted
  rw [List.reverse_cons, List.lookup_append, unstated]
  rfl

/-- A lookup informs if what it comes to does. -/
theorem informs_bind {α : Type} {x : Lookup α} {f : α → Lookup Json}
    (informs : ∀ a, (f a).Informs) : Lookup.Informs (x >>= f) := by
  intro outside wire v found
  obtain ⟨a, -, found⟩ := run_bind_eq_ok found
  exact informs a _ _ v found

/-- Every question that a tool asks is answered with a success. -/
theorem informs_request {tool : LedgerTool} {kit : Kit} {input : String} {request : Request}
    (asked : tool.request kit input = .ok request) : request.Informs := by
  cases tool with
  | topicInfo =>
      obtain ⟨topic, -, asked⟩ := Json.bind_eq_ok.1 asked
      refine .of_pure (.question ?_) asked
      exact informs_bind fun info => informs_success rfl
  | topicMessages =>
      obtain ⟨⟨topic, lower, upper⟩, -, asked⟩ := Json.bind_eq_ok.1 asked
      refine .of_pure (.question ?_) asked
      exact informs_bind fun messages => informs_success rfl
  | hbarBalance =>
      obtain ⟨account, -, asked⟩ := Json.bind_eq_ok.1 asked
      refine .of_pure (.question ?_) asked
      exact informs_bind fun balance => informs_success rfl
  | tokenBalance =>
      obtain ⟨⟨token, account⟩, -, asked⟩ := Json.bind_eq_ok.1 asked
      refine .of_pure (.question ?_) asked
      exact informs_bind fun balance => informs_bind fun details => informs_success rfl
  | allTokenBalances =>
      obtain ⟨account, -, asked⟩ := Json.bind_eq_ok.1 asked
      refine .of_pure (.question ?_) asked
      exact informs_bind fun balances => informs_success rfl
  | tokenHolders =>
      obtain ⟨⟨token, threshold⟩, -, asked⟩ := Json.bind_eq_ok.1 asked
      refine .of_pure (.question ?_) asked
      exact informs_bind fun floor => informs_bind fun holders => informs_success rfl
  | pendingAirdrops =>
      obtain ⟨account, -, asked⟩ := Json.bind_eq_ok.1 asked
      refine .of_pure (.question ?_) asked
      exact informs_bind fun airdrops => informs_success rfl
  | transferHbar =>
      obtain ⟨⟨recipient, amount⟩, -, asked⟩ := Json.bind_eq_ok.1 asked
      obtain ⟨amount, -, asked⟩ := Json.bind_eq_ok.1 asked
      cases read : Tinybars.ofDisplay amount with
      | error e =>
          rw [read] at asked
          cases asked
      | ok units =>
          rw [read] at asked
          exact .of_pure (.change _) asked
  | mintToken | approveAllowance | transferToken =>
      obtain ⟨parameters, -, asked⟩ := Json.bind_eq_ok.1 asked
      obtain ⟨amount, -, asked⟩ := Json.bind_eq_ok.1 asked
      exact .of_pure (.change _) asked
  | createTopic | deleteTopic | submitTopicMessage | createFungibleToken | createNonFungibleToken
  | mintNft | associateToken | dissociateToken | airdropToken | claimAirdrop | rejectToken =>
      obtain ⟨parameters, -, asked⟩ := Json.bind_eq_ok.1 asked
      exact .of_pure (.change _) asked

/-! ### Answers of every kind -/

/-- A completion states the status that its operation gives. -/
theorem states_completed (operation : Operation) (c : Completion) :
    (Outcome.completed operation c).answer.States (operation.statusText c.status) := by
  apply Json.states_sorted
  obtain ⟨status, id, _ | (_ | _)⟩ := c <;> rfl

/-- Bytes to sign are stated as a success. -/
theorem states_unsigned (operation : Operation) (bytes : String) :
    (Outcome.unsigned operation bytes).answer.States "success" :=
  Json.states_sorted rfl

/-- A fulfilled instruction is told with the network's word for success. -/
theorem statusText_completion {i : Instruction} {completion : Completion}
    (fulfilled : i.Fulfilment (.ok completion)) :
    i.operation.statusText completion.status ≠ "error" := by
  cases fulfilled with
  | @done response receipt _ success told =>
      obtain ⟨entity, -, rfl⟩ := Json.map_eq_ok.1 told
      exact i.operation.statusText_ne_error success

/-- What a tool answers, unless it fails, states something else than an error. -/
theorem ends_run_states (tool : LedgerTool) (kit : Kit) (mode : Option Bool) (input : String)
    (outside : Outside) (journal : Journal) :
    Ends outside (tool.run kit mode input).run journal fun result _ =>
      ∀ answer, result = .ok answer → ∃ status, status ≠ "error" ∧ answer.States status := by
  refine ends_run.mono fun result _ ⟨submitted, concluded, _⟩ answer given => ?_
  cases concluded with
  | misasked | unsettled => cases given
  | answered asked found =>
      cases informs_request asked with
      | question informs =>
          rw [given] at found
          exact ⟨"success", by decide, informs _ _ _ found⟩
  | performed asked settled concluded =>
      obtain ⟨outcome, held, rfl⟩ := Json.map_eq_ok.1 given
      have held := Json.mapError_eq_ok.1 held
      cases concluded with
      | nobody | unsound | nowhere => cases held
      | handedOut =>
          cases held
          exact ⟨"success", by decide, states_unsigned _ _⟩
      | executed acting operated settled fulfilled =>
          obtain ⟨completion, told, rfl⟩ := Json.map_eq_ok.1 held
          rw [Json.mapError_eq_ok.1 told] at fulfilled
          exact ⟨_, statusText_completion fulfilled, states_completed _ _⟩

/-- Every call is answered with the JSON text of an object, its keys all different, with a
status in it.  The status speaks of an error exactly where the tool failed, and the error is
then all that the object tells. -/
theorem status_call (tool : LedgerTool) (kit : Kit) (mode : Option Bool) (input : String)
    (outside : Outside) (journal : Journal) :
    Ends outside (tool.call kit mode input) journal fun answer _ =>
      ∃ (members : List (String × Source)) (status : String),
        ElementText answer.toList (.object members) ∧ (members.map Prod.fst).Nodup ∧
        members.lookup "status" = some (.string status) ∧
        (status = "error" ↔
          ∃ e, ((tool.run kit mode input).run outside journal).1 = .error e) ∧
        ∀ e, ((tool.run kit mode input).run outside journal).1 = .error e →
          members = [("code", .string e.code), ("message", .string e.message),
            ("status", .string "error")] := by
  have stated := ends_run_states tool kit mode input outside journal
  rw [call, ends_bind]
  rw [Ends] at stated ⊢
  cases result : ((tool.run kit mode input).run outside journal).1 with
  | ok answer =>
      obtain ⟨status, good, states⟩ := stated answer result
      obtain ⟨members, written, distinct, told⟩ := states.text
      refine ⟨members, status, written, distinct, told, ?_, ?_⟩
      · constructor
        · intro bad
          exact absurd bad good
        · rintro ⟨e, failed⟩
          cases failed
      · intro e failed
        cases failed
  | error e =>
      have written := Json.elementText_render e.answer
      rw [ToolError.answer_eq] at written
      refine ⟨_, "error", written, ?_, rfl, ?_, ?_⟩
      · simp [Json.memberSources]
      · exact ⟨fun _ => ⟨e, rfl⟩, fun _ => rfl⟩
      · intro e' failed
        cases failed
        rfl

end LedgerTool

end LedgerAgent
