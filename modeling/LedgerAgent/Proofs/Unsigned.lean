/-
Module: LedgerAgent.Proofs.Unsigned
Purpose: What is in the bytes that an instruction hands out for signing, when there are any: a
  wallet that reads them finds the whole transaction in the name of whoever is to pay.
Main exports: Instruction.draft, Instruction.ends_bytesToSign_draft,
  Instruction.bytesToSign_faithful
-/
import LedgerAgent.Proofs.Transaction.Freezing

namespace LedgerAgent

namespace Instruction

/-- The transaction that is frozen for signing: it names its payer if a sender is given. -/
def draft (i : Instruction) (sender : Option AccountId) (now : Instant) : Transaction :=
  { i.transaction with id := sender.map fun account => .generate account now }

/-- The text that freezing hands out, or why it hands out none. -/
def handed (frozen : Transaction × Except TransactionError Unit) :
    Except SubmissionError String :=
  match frozen.2.bind fun _ => frozen.1.toBytes with
  | .error e => .error (.refused e)
  | .ok bytes => .ok (Text.Base64.encode bytes)

/-- What freezing closes is handed out as its text in base64. -/
theorem handed_of_granted {frozen : Transaction × Except TransactionError Unit}
    (granted : frozen.2 = .ok ()) (closed : frozen.1.frozen = true) :
    handed frozen = .ok frozen.1.encoded := by
  rw [handed, granted, Except.bind, Transaction.toBytes_of_frozen closed]
  rfl

/-- Bytes for signing are those of the draft as of the next reading of the clock, once it is
frozen, and nothing is sent for them. -/
theorem ends_bytesToSign_draft (i : Instruction) (source : FreezeSource)
    (sender : Option AccountId) (outside : Outside) (wire : Wire) :
    Ends outside (i.bytesToSign source sender) wire fun result after =>
      result = handed ((i.draft sender (outside.clock wire.readings)).freeze source
        (outside.clock wire.readings)) ∧
      after.requests = wire.requests := by
  rw [bytesToSign]
  cases sender with
  | none =>
      simp only [ends_bind, Exchange.ends_log, Option.mapM_none, ends_pure]
      apply (Transaction.ends_freezeNow _ source outside _).mono
      rintro frozen after ⟨course, unasked, -⟩
      have same : i.draft none (outside.clock wire.readings) =
          { i.transaction with id := none } := rfl
      rw [same, ← course, handed]
      cases frozen.2.bind fun _ => frozen.1.toBytes with
      | error e => exact ⟨rfl, unasked⟩
      | ok bytes => exact ⟨rfl, unasked⟩
  | some account =>
      simp only [ends_bind, Exchange.ends_log, Option.mapM_some, ends_map, Exchange.ends_now,
        ends_pure]
      apply (Transaction.ends_freezeNow _ source outside _).mono
      rintro frozen after ⟨course, unasked, -⟩
      -- the identity is there, so that freezing does not depend on the later reading
      rw [Transaction.freeze_of_unread rfl _ (outside.clock wire.readings)] at course
      have same : i.draft (some account) (outside.clock wire.readings) =
          { i.transaction with
            id := some (.generate account (outside.clock wire.readings)) } := rfl
      rw [same, ← course, handed]
      cases frozen.2.bind fun _ => frozen.1.toBytes with
      | error e => exact ⟨rfl, unasked⟩
      | ok bytes => exact ⟨rfl, unasked⟩

/-- A draft is frozen exactly if the client has a node and somebody is to pay. -/
theorem draft_granted_iff (i : Instruction) (client : LedgerClient) (sender : Option AccountId)
    (now : Instant) :
    ((i.draft sender now).freeze client.source now).2 = .ok () ↔
      client.nodes ≠ [] ∧ (sender ≠ none ∨ client.operatorAccount ≠ none) := by
  have nodeless : (i.draft sender now).nodes = [] := rfl
  have named_iff : (i.draft sender now).id ≠ none ↔ sender ≠ none :=
    not_congr Option.map_eq_none_iff
  have opened : (i.draft sender now).frozen = false := rfl
  apply (Transaction.freeze_granted_iff opened client.source now).trans
  rw [Transaction.idFrom_ne_none_iff, Transaction.nodesFrom_ne_nil_iff, named_iff, nodeless]
  constructor
  · rintro ⟨paid, placed⟩
    exact ⟨placed.resolve_left (absurd rfl), paid⟩
  · rintro ⟨placed, paid⟩
    exact ⟨paid, .inr placed⟩

/-- A draft that is frozen is of the sender, or else of the client's operator. -/
theorem payer_of_filledIn {i : Instruction} {client : LedgerClient} {sender : Option AccountId}
    {now : Instant} {t : Transaction} (filled : (i.draft sender now).FilledIn client now t) :
    ∃ payer, sender.or client.operatorAccount = some payer ∧ t.id = some ⟨payer, now⟩ := by
  cases sender with
  | none => exact filled.fillsId rfl
  | some account => exact ⟨account, rfl, filled.keepsId _ rfl⟩

/-- For every instruction, client and sender there are bytes for signing exactly if the client
has a node and somebody is to pay, who is the sender or else the client's operator.  Whoever
decodes them finds a frozen transaction without signatures, with the instruction's body, of the
payer as of the present reading of the clock, for the client's nodes and at the default fee.
The client is not asked for anything, and nothing is sent. -/
theorem bytesToSign_faithful (i : Instruction) (client : LedgerClient)
    (sender : Option AccountId) (outside : Outside) (journal : Journal)
    (clock : (outside.clock journal.wire.readings).WithinSecond) :
    Ends outside (i.bytesToSign client.source sender).inSession journal fun result after =>
      ((∃ text, result = .ok text) ↔
        client.nodes ≠ [] ∧ (sender ≠ none ∨ client.operatorAccount ≠ none)) ∧
      (∀ text, result = .ok text → ∃ bytes t payer,
        Text.Base64.decode (Text.bytes text) = .ok bytes ∧ Transaction.ofBytes bytes = .ok t ∧
          t.frozen = true ∧ t.signatures = [] ∧ t.body = i.body ∧
          sender.or client.operatorAccount = some payer ∧
          t.id = some ⟨payer, outside.clock journal.wire.readings⟩ ∧ t.nodes = client.nodes ∧
          t.maxFee = some defaultMaxFee) ∧
      after.calls = journal.calls ∧ after.wire.requests = journal.wire.requests := by
  rw [Session.ends_inSession]
  apply (i.ends_bytesToSign_draft client.source sender outside journal.wire).mono
  intro result after course
  obtain ⟨told, unasked⟩ := course
  generalize outside.clock journal.wire.readings = now at clock told ⊢
  rw [← i.draft_granted_iff client sender now]
  cases answered : ((i.draft sender now).freeze client.source now).2 with
  | error e =>
      have refused : result = .error (.refused e) := by
        rw [told, handed, answered]
        rfl
      refine ⟨⟨?_, nofun⟩, ?_, rfl, unasked⟩
      · rintro ⟨text, good⟩
        cases refused.symm.trans good
      · intro text good
        cases refused.symm.trans good
  | ok _ =>
      have filled := Transaction.filledIn_of_freeze (t := i.draft sender now) rfl answered
      have given := told.trans (handed_of_granted answered filled.frozen)
      generalize ((i.draft sender now).freeze client.source now).1 = t at filled given
      obtain ⟨payer, pays, identified⟩ := payer_of_filledIn filled
      have closed : { t with frozen := true } = t := by rw [← filled.frozen]
      refine ⟨⟨fun _ => rfl, fun _ => ⟨_, given⟩⟩, ?_, rfl, unasked⟩
      intro text good
      cases given.symm.trans good
      refine ⟨_, t, payer, Text.Base64.decode_encode _, ?_, filled.frozen, filled.signatures,
        filled.body, pays, identified, filled.fillsNodes rfl, filled.fillsFee rfl⟩
      rw [Transaction.ofBytes_render identified clock, closed]

theorem bytesToSign_faithful_operator :
    let client := { Transaction.nodeless with nodes := [⟨0, 0, 3⟩] }
    let i : Instruction := .deleteTopic ⟨0, 0, 77⟩
    let result := (i.bytesToSign client.source none).inSession Transaction.stillWorld .empty |>.1
    (Transaction.stillWorld.clock 0).WithinSecond ∧ ∃ text bytes t, result = .ok text ∧
      Text.Base64.decode (Text.bytes text) = .ok bytes ∧ Transaction.ofBytes bytes = .ok t ∧
        t.frozen = true ∧ t.signatures = [] ∧ t.body = .topicDelete ⟨0, 0, 77⟩ ∧
        t.id = some ⟨⟨0, 0, 1001⟩, ⟨1700000000, 1⟩⟩ ∧ t.nodes = [⟨0, 0, 3⟩] := by
  intro client i result
  have clock : (Transaction.stillWorld.clock 0).WithinSecond := by decide
  obtain ⟨given_iff, found, -⟩ :=
    bytesToSign_faithful i client none Transaction.stillWorld .empty clock
  obtain ⟨text, given⟩ := given_iff.2 ⟨nofun, .inr nofun⟩
  obtain ⟨bytes, t, payer, decoded, read, frozen, unsigned, body, pays, identified, nodes, -⟩ :=
    found text given
  cases pays
  exact ⟨clock, text, bytes, t, given, decoded, read, frozen, unsigned, body, identified, nodes⟩

end Instruction

end LedgerAgent
