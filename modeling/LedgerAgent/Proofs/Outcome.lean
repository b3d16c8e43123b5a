/-
Module: LedgerAgent.Proofs.Outcome
Purpose: What an outcome's answer says when it is parsed again: the outcome itself, and a message.
Main exports: Json.without, Json.parse_render_sorted, Operation.Puts, Outcome.Tells,
  Outcome.parse_answer
-/
import LedgerAgent.Outcome
import LedgerAgent.Proofs.Identifier
import LedgerAgent.Proofs.Json.Canonical

namespace LedgerAgent

namespace Json

variable {members : List (String × Json)}

/-! ### Objects of texts -/

/-- A value without the member of a name. -/
def without (name : String) : Json → Json
  | .object members => .object (members.filter fun m => m.1 != name)
  | v => v

/-- Every value among the members is a text. -/
def Texts (members : List (String × Json)) : Prop :=
  ∀ m ∈ members, ∃ s, m.2 = .string s

theorem Texts.membersFit {room : Nat} (texts : Texts members) : MembersFit room members := by
  induction members with
  | nil => exact trivial
  | cons m rest inductionHypothesis =>
      obtain ⟨⟨s, text⟩, texts⟩ := List.forall_mem_cons.1 texts
      rw [MembersFit, text]
      exact ⟨fits_string s, inductionHypothesis texts⟩

/-- Members that are texts are read as they are. -/
theorem Texts.memberValues (texts : Texts members) :
    Reading.memberValues (memberReadings members) = members := by
  induction members with
  | nil => rfl
  | cons m rest inductionHypothesis =>
      obtain ⟨⟨s, text⟩, others⟩ := List.forall_mem_cons.1 texts
      rw [memberReadings, Reading.memberValues, inductionHypothesis others, text, toReading,
        Reading.value, ← text]

/-- An object of texts whose members stand in key order is parsed as it was. -/
theorem parse_render_sorted (distinct : (members.map Prod.fst).Nodup) (texts : Texts members) :
    parse (sorted members).render = .ok (sorted members) := by
  have texts' : Texts (canonicalMembers members) :=
    fun m among => texts m ((mem_canonicalMembers_iff distinct).1 among)
  have fits : Fits maxDepth (sorted members) := texts'.membersFit
  rw [parse_render fits, sorted, toReading, Reading.value, texts'.memberValues, sorted,
    canonicalMembers_of_rising (rising_canonicalMembers members)]

end Json

/-! ### Answers -/

/-- How a status is told: as it is for transfers of the ledger's own currency and for allowances,
in lower case for everything else. -/
inductive Operation.Puts : Operation → String → String → Prop where
  | verbatim {operation : Operation} {status : String}
      (keeps : operation = .transferHbar ∨ operation = .assetAllowance) :
      Puts operation status status
  | lowered {operation : Operation} {status : String} (other : operation ≠ .transferHbar)
      (other' : operation ≠ .assetAllowance) : Puts operation status (Text.lowercase status)

/-- Two operations keep the status of their receipt. -/
theorem Operation.keepsStatus_iff (operation : Operation) :
    operation.keepsStatus = true ↔ operation = .transferHbar ∨ operation = .assetAllowance := by
  cases operation <;> simp [keepsStatus]

/-- What an operation puts for a status is its status text. -/
theorem Operation.puts_iff {operation : Operation} {status text : String} :
    operation.Puts status text ↔ operation.statusText status = text := by
  rw [statusText]
  constructor
  · intro puts
    cases puts with
    | verbatim keeps => rw [if_pos (operation.keepsStatus_iff.2 keeps)]
    | lowered other other' =>
        rw [if_neg fun keeps => (operation.keepsStatus_iff.1 keeps).elim other other']
  · rintro rfl
    split
    · next keeps => exact .verbatim (operation.keepsStatus_iff.1 keeps)
    · next lowers =>
      rw [operation.keepsStatus_iff, not_or] at lowers
      exact .lowered lowers.1 lowers.2

namespace Outcome

/-- The members of an outcome's answer. -/
def answerMembers : Outcome → List (String × Json)
  | .completed operation c =>
    ("message", .string operation.doneMessage) :: (shown operation c).members
  | .unsigned operation bytes =>
    [("status", .string "success"), ("txBytes", .string bytes),
      ("message", .string operation.bytesMessage)]

/-- An answer is the object of its members. -/
theorem answer_eq (o : Outcome) : o.answer = Json.sorted o.answerMembers := by
  cases o <;> rfl

/-- What an outcome's answer tells, name by name. -/
inductive Tells : Outcome → String → String → Prop where
  | done {operation : Operation} {c : Completion} :
      Tells (.completed operation c) "message" operation.doneMessage
  | status {operation : Operation} {c : Completion} {text : String}
      (puts : operation.Puts c.status text) : Tells (.completed operation c) "status" text
  | hash {operation : Operation} {c : Completion} :
      Tells (.completed operation c) "txHash" c.transactionId
  | topic {operation : Operation} {c : Completion} {id : TopicId}
      (about : c.entity = some (.topic id)) :
      Tells (.completed operation c) "topicId" id.toText
  | token {operation : Operation} {c : Completion} {id : TokenId}
      (about : c.entity = some (.token id)) :
      Tells (.completed operation c) "tokenId" id.toText
  | success {operation : Operation} {bytes : String} :
      Tells (.unsigned operation bytes) "status" "success"
  | bytes {operation : Operation} {bytes : String} :
      Tells (.unsigned operation bytes) "txBytes" bytes
  | ready {operation : Operation} {bytes : String} :
      Tells (.unsigned operation bytes) "message" operation.bytesMessage

/-- The answer's members are texts, and just what is told. -/
theorem mem_answerMembers_iff (o : Outcome) (m : String × Json) :
    m ∈ o.answerMembers ↔ ∃ text, m.2 = .string text ∧ o.Tells m.1 text := by
  constructor
  · intro among
    cases o with
    | completed operation c =>
        rcases List.mem_cons.1 among with rfl | among
        · exact ⟨_, rfl, .done⟩
        rcases List.mem_append.1 among with own | about
        · rcases List.mem_cons.1 own with rfl | own
          · exact ⟨_, rfl, .status (Operation.puts_iff.2 rfl)⟩
          rw [List.mem_singleton.1 own]
          exact ⟨_, rfl, .hash⟩
        · rw [Option.mem_toList, Option.map_eq_some_iff] at about
          obtain ⟨entity, about, rfl⟩ := about
          cases entity with
          | topic id => exact ⟨_, rfl, .topic about⟩
          | token id => exact ⟨_, rfl, .token about⟩
    | unsigned operation bytes =>
        rcases List.mem_cons.1 among with rfl | among
        · exact ⟨_, rfl, .success⟩
        rcases List.mem_cons.1 among with rfl | among
        · exact ⟨_, rfl, .bytes⟩
        rw [List.mem_singleton.1 among]
        exact ⟨_, rfl, .ready⟩
  · obtain ⟨name, v⟩ := m
    rintro ⟨text, rfl, told⟩
    cases told with
    | status puts =>
        rw [← Operation.puts_iff.1 puts]
        simp [answerMembers, Completion.members, shown]
    | topic about | token about =>
        simp [answerMembers, Completion.members, shown, about, LedgerEntity.member, EntityId.toJson]
    | _ => simp [answerMembers, Completion.members, shown]

/-- No member of an answer hides another. -/
theorem nodup_answerMembers (o : Outcome) : (o.answerMembers.map Prod.fst).Nodup := by
  cases o with
  | completed operation c =>
      obtain ⟨status, id, _ | _ | _⟩ := c <;>
        simp [answerMembers, Completion.members, shown, LedgerEntity.member]
  | unsigned operation bytes => simp [answerMembers]

/-- The outcome itself, as an answer gives it: the completion as it is, the bytes under a name and
with a status of their own. -/
def gist : Outcome → Json
  | .completed operation c => (completed operation c).toJson
  | .unsigned operation bytes =>
    .object [("status", .string "success"), ("txBytes", (unsigned operation bytes).toJson)]

/-- Without its message an answer is the gist of the outcome. -/
theorem without_answer (o : Outcome) : o.answer.without "message" = o.gist := by
  rw [answer_eq, Json.sorted, Json.without, Json.filter_canonicalMembers (nodup_answerMembers o)]
  cases o with
  | completed operation c => obtain ⟨status, id, _ | _ | _⟩ := c <;> rfl
  | unsigned operation bytes => rfl

/-- An answer is parsed as an object of texts.  Without its message it is the outcome itself, and
it tells, under each name, what the outcome tells and nothing else. -/
theorem parse_answer (o : Outcome) :
    ∃ members, Json.parse o.answer.render = .ok (.object members) ∧
      (Json.object members).without "message" = o.gist ∧
      ∀ name v, members.lookup name = some v ↔ ∃ text, v = .string text ∧ o.Tells name text := by
  have distinct := nodup_answerMembers o
  refine ⟨Json.canonicalMembers o.answerMembers, ?_, ?_, fun name v => ?_⟩
  · rw [answer_eq]
    refine Json.parse_render_sorted distinct fun m among => ?_
    obtain ⟨text, same, -⟩ := (mem_answerMembers_iff o m).1 among
    exact ⟨text, same⟩
  · rw [← without_answer, answer_eq]
    rfl
  · rw [Json.lookup_eq_some_iff_mem (Json.nodup_canonicalMembers _),
      Json.mem_canonicalMembers_iff distinct, mem_answerMembers_iff]

end Outcome

end LedgerAgent
