/-
Module: LedgerAgent.Proofs.Execution
Purpose: The protocol of an execution: what a ledger client is asked, in what order and how often,
  and what is told of its answers.
Main exports: Receipt.isSuccess_iff, Instruction.Consults, Instruction.Verdict,
  Instruction.ends_carryOut_verdict, Instruction.carryOut_protocol
-/
import LedgerAgent.Proofs.Session

namespace LedgerAgent

/-! ### Success in a status -/

/-- A text can be cut at a mark exactly if the mark stands in it somewhere. -/
theorem Text.isSome_cutAtText_iff {mark text : List Char} :
    (cutAtText mark text).isSome = true ↔ mark <:+: text := by
  constructor
  · intro found
    obtain ⟨⟨before, after⟩, cut⟩ := Option.isSome_iff_exists.1 found
    exact ⟨before, after, (eq_of_cutAtText cut).symm⟩
  · rintro ⟨before, after, rfl⟩
    induction before with
    | nil =>
        cases mark with
        | nil => cases after <;> rfl
        | cons m mark =>
            have lead : dropLead (m :: mark) (m :: (mark ++ after)) = some after :=
              dropLead_append (m :: mark) after
            simp [cutAtText, lead]
    | cons c before inductionHypothesis =>
        simp only [List.cons_append, cutAtText]
        split
        · rfl
        · rw [Option.isSome_map]
          exact inductionHypothesis

/-- A receipt tells of success if the word stands somewhere in its status. -/
theorem Receipt.isSuccess_iff {receipt : Receipt} :
    receipt.isSuccess = true ↔ "SUCCESS".toList <:+: receipt.status.toList :=
  Text.isSome_cutAtText_iff

/-! ### Exchanges between log entries -/

/-- What holds of every outcome of a course holds of where it ends. -/
theorem Ends.of_run {α σ : Type} {outside : Outside} {x : ReaderT Outside (StateM σ) α} {s : σ}
    {Q : α → σ → Prop} (h : ∀ a s', x outside s = (a, s') → Q a s') : Ends outside x s Q :=
  h _ _ rfl

/-- From one wire to the other nothing happened but that things were told to the log. -/
def Wire.LogsTo (wire after : Wire) : Prop :=
  ∃ events, after = { wire with events := events ++ wire.events }

theorem Wire.LogsTo.refl (wire : Wire) : wire.LogsTo wire := ⟨[], rfl⟩

theorem Wire.LogsTo.tell {wire after : Wire} (logged : wire.LogsTo after) (event : LogEvent) :
    wire.LogsTo { after with events := event :: after.events } := by
  obtain ⟨events, rfl⟩ := logged
  exact ⟨event :: events, rfl⟩

/-- An exchange gave an answer, and but for it there were only log entries. -/
def Exchange.Gives {α : Type} (x : Exchange α) (outside : Outside) (wire : Wire) (answer : α)
    (after : Wire) : Prop :=
  ∃ before left, wire.LogsTo before ∧ x outside before = (answer, left) ∧ left.LogsTo after

namespace Instruction

/-! ### The protocol -/

/-- What a client is asked when an instruction is carried out, and what it answers: it executes the
transaction, and if that succeeds it is asked for the receipt of just this response.  Between its
answers there is nothing but talk to the log. -/
inductive Consults (i : Instruction) (client : LedgerClient) (outside : Outside)
    (journal after : Journal) :
    Except ClientError Response → Option (Except ClientError Receipt) → Prop where
  | refused {e : ClientError}
      (executed : (client.execute i.transaction).Gives outside journal.wire (.error e) after.wire)
      (called : after.calls = .execute i.transaction :: journal.calls) :
      Consults i client outside journal after (.error e) none
  | accepted {response : Response} {received : Except ClientError Receipt} {wire : Wire}
      (executed : (client.execute i.transaction).Gives outside journal.wire (.ok response) wire)
      (asked : (client.receipt response).Gives outside wire received after.wire)
      (called : after.calls =
        .receipt response :: .execute i.transaction :: journal.calls) :
      Consults i client outside journal after (.ok response) (some received)

/-- The entity that is told about: a creation's as the receipt has it, a message's own topic, and
none with any other change. -/
inductive Tells (receipt : Receipt) : Instruction → Option LedgerEntity → Prop where
  | createdTopic {memo : String} {key : PublicKey} {hasSubmitKey : Bool} {id : TopicId}
      (given : receipt.topic = some id) :
      Tells receipt (.createTopic memo key hasSubmitKey) (some (.topic id))
  | createdToken {options : TokenOptions} {key : PublicKey} {treasury : AccountId} {id : TokenId}
      (given : receipt.token = some id) :
      Tells receipt (.createToken options key treasury) (some (.token id))
  | submitted {topic : TopicId} {message : String} :
      Tells receipt (.submitTopicMessage topic message) (some (.topic topic))
  | plain {i : Instruction} (neither : i.operation ≠ .createTopic ∧ i.operation ≠ .createToken)
      (unsubmitted : i.operation ≠ .submitTopicMessage) : Tells receipt i none

/-- The part that a creation's receipt is without. -/
inductive Misses (receipt : Receipt) : Instruction → ReceiptPart → Prop where
  | topic {memo : String} {key : PublicKey} {hasSubmitKey : Bool} (absent : receipt.topic = none) :
      Misses receipt (.createTopic memo key hasSubmitKey) .topic
  | token {options : TokenOptions} {key : PublicKey} {treasury : AccountId}
      (absent : receipt.token = none) :
      Misses receipt (.createToken options key treasury) .token

/-- What is told of a client's answers: the first thing that went wrong, or the status that speaks
of success, the response's identity and the entity. -/
inductive Verdict (i : Instruction) : Except ClientError Response →
    Option (Except ClientError Receipt) → Except SubmissionError Completion → Prop where
  | unexecuted (e : ClientError) : Verdict i (.error e) none (.error (.execution e))
  | unreceived (response : Response) (e : ClientError) :
      Verdict i (.ok response) (some (.error e)) (.error (.receipt e))
  | unsuccessful (response : Response) {receipt : Receipt}
      (silent : ¬ "SUCCESS".toList <:+: receipt.status.toList) :
      Verdict i (.ok response) (some (.ok receipt)) (.error (.status receipt.status response.id))
  | incomplete (response : Response) {receipt : Receipt} {part : ReceiptPart}
      (success : "SUCCESS".toList <:+: receipt.status.toList) (misses : Misses receipt i part) :
      Verdict i (.ok response) (some (.ok receipt)) (.error (.missingPart part))
  | done (response : Response) {receipt : Receipt} {entity : Option LedgerEntity}
      (success : "SUCCESS".toList <:+: receipt.status.toList) (tells : Tells receipt i entity) :
      Verdict i (.ok response) (some (.ok receipt))
        (.ok ⟨receipt.status, response.id.toText, entity⟩)

/-- Of a receipt that speaks of success a completion is told, or the part that it misses. -/
theorem verdict_of_success (i : Instruction) (response : Response) {receipt : Receipt}
    (success : "SUCCESS".toList <:+: receipt.status.toList) :
    i.Verdict (.ok response) (some (.ok receipt))
      ((i.completion response receipt).mapError SubmissionError.missingPart) := by
  cases i with
  | createTopic memo key hasSubmitKey =>
      cases topic : receipt.topic with
      | none =>
          simp only [completion, entity, topic, Option.elim_none]
          exact .incomplete response success (.topic topic)
      | some id =>
          simp only [completion, entity, topic, Option.elim_some]
          exact .done response success (.createdTopic topic)
  | createToken options key treasury =>
      cases token : receipt.token with
      | none =>
          simp only [completion, entity, token, Option.elim_none]
          exact .incomplete response success (.token token)
      | some id =>
          simp only [completion, entity, token, Option.elim_some]
          exact .done response success (.createdToken token)
  | submitTopicMessage topic message => exact .done response success .submitted
  | _ => exact .done response success (.plain (by simp [operation]) (by simp [operation]))

/-- Whatever the client answers, carrying an instruction out follows the protocol. -/
theorem ends_carryOut_verdict (i : Instruction) (client : LedgerClient) (outside : Outside)
    (journal : Journal) :
    Ends outside (i.carryOut client) journal fun result after =>
      ∃ executed received, i.Consults client outside journal after executed received ∧
        i.Verdict executed received result := by
  unfold carryOut
  simp only [ends_bind, Session.ends_lift, Session.ends_log, Session.ends_submit_iff]
  refine Ends.of_run fun executed left execution => ?_
  cases executed with
  | error e =>
      simp only [ends_bind, Session.ends_lift, Session.ends_log, ends_pure]
      exact ⟨_, _,
        .refused ⟨_, left, .tell (.tell (.refl _) _) _, execution, .tell (.refl _) _⟩ rfl,
        .unexecuted e⟩
  | ok response =>
      simp only [ends_bind, Session.ends_lift, Session.ends_log, Session.ends_fetchReceipt_iff]
      have executed : (client.execute i.transaction).Gives outside journal.wire (.ok response)
          left :=
        ⟨_, left, .tell (.tell (.refl _) _) _, execution, .refl left⟩
      refine Ends.of_run fun received left' reception => ?_
      cases received with
      | error e =>
          simp only [ends_bind, Session.ends_lift, Session.ends_log, ends_pure]
          exact ⟨_, _, .accepted executed
            ⟨_, left', .tell (.refl _) _, reception, .tell (.refl _) _⟩ rfl, .unreceived response e⟩
      | ok receipt =>
          simp only [ends_bind, Session.ends_lift, Session.ends_log]
          split
          · rename_i success
            exact ⟨_, _, .accepted executed
              ⟨_, left', .tell (.refl _) _, reception, .tell (.refl _) _⟩ rfl,
              i.verdict_of_success response (Receipt.isSuccess_iff.1 success)⟩
          · rename_i silent
            simp only [ends_bind, Session.ends_lift, Session.ends_log, ends_pure]
            exact ⟨_, _, .accepted executed
              ⟨_, left', .tell (.refl _) _, reception, .tell (.tell (.refl _) _) _⟩ rfl,
              .unsuccessful response (mt Receipt.isSuccess_iff.2 silent)⟩

/-- A completion is told exactly if both answers are good, the status speaks of success, and a
creation's receipt has what was created. -/
theorem Verdict.told_iff {i : Instruction} {executed : Except ClientError Response}
    {received : Option (Except ClientError Receipt)} {result : Except SubmissionError Completion}
    (verdict : i.Verdict executed received result) :
    (∃ completion, result = .ok completion) ↔
      ∃ response receipt, executed = .ok response ∧ received = some (.ok receipt) ∧
        "SUCCESS".toList <:+: receipt.status.toList ∧
        (i.operation = .createTopic → receipt.topic.isSome = true) ∧
        (i.operation = .createToken → receipt.token.isSome = true) := by
  cases verdict with
  | unexecuted e => exact ⟨nofun, nofun⟩
  | unreceived response e => exact ⟨nofun, nofun⟩
  | unsuccessful response silent =>
      refine ⟨nofun, ?_⟩
      rintro ⟨response', receipt', -, same, success, -⟩
      cases same
      exact absurd success silent
  | incomplete response success misses =>
      refine ⟨nofun, ?_⟩
      rintro ⟨response', receipt', -, same, -, topic, token⟩
      cases same
      cases misses with
      | topic absent => simpa [absent] using topic rfl
      | token absent => simpa [absent] using token rfl
  | @done response receipt entity success tells =>
      refine ⟨fun _ => ⟨response, receipt, rfl, rfl, success, ?_⟩, fun _ => ⟨_, rfl⟩⟩
      cases tells with
      | createdTopic given => exact ⟨fun _ => Option.isSome_of_eq_some given, nofun⟩
      | createdToken given => exact ⟨nofun, fun _ => Option.isSome_of_eq_some given⟩
      | submitted => exact ⟨nofun, nofun⟩
      | plain neither _ => exact ⟨fun is => absurd is neither.1, fun is => absurd is neither.2⟩

/-- Whatever the change and the client: the transaction is handed over for execution once; the
receipt is asked for at most once, of the response to it alone; a completion is told exactly where
nothing is amiss, with the status, the identity and the entity that belong to it; else the first
thing amiss is. -/
theorem carryOut_protocol (i : Instruction) (client : LedgerClient) (outside : Outside)
    (journal : Journal) :
    Ends outside (i.carryOut client) journal fun result after =>
      ∃ executed received, i.Consults client outside journal after executed received ∧
        i.Verdict executed received result ∧
        ((∃ completion, result = .ok completion) ↔
          ∃ response receipt, executed = .ok response ∧ received = some (.ok receipt) ∧
            "SUCCESS".toList <:+: receipt.status.toList ∧
            (i.operation = .createTopic → receipt.topic.isSome = true) ∧
            (i.operation = .createToken → receipt.token.isSome = true)) := by
  refine (i.ends_carryOut_verdict client outside journal).mono fun result after course => ?_
  obtain ⟨executed, received, consults, verdict⟩ := course
  exact ⟨executed, received, consults, verdict, verdict.told_iff⟩

end Instruction

end LedgerAgent
