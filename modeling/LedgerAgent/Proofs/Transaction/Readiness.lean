/-
Module: LedgerAgent.Proofs.Transaction.Readiness
Purpose: Which frozen transactions have all that the network needs: those that were frozen
  against a client, and those from bytes that give it.
Main exports: Transaction.Ready, Transaction.ready_run_ofBody, Transaction.NamesNodes,
  Transaction.NamesFee, Transaction.ready_course_ofBytes
-/
import LedgerAgent.Proofs.Transaction.Lifecycle

namespace LedgerAgent.Transaction

/-- A transaction has what the network needs: an identity, a node to go to, and the most that it
may cost. -/
structure Ready (t : Transaction) : Prop where
  identified : t.id ≠ none
  placed : t.nodes ≠ []
  priced : t.maxFee ≠ none

/-! ### Frozen against a client -/

/-- Freezing that closes a transaction makes it ready. -/
theorem ready_freeze {t : Transaction} {source : FreezeSource} {now : Instant}
    (opened : t.frozen = false) (closed : (t.freeze source now).1.frozen = true) :
    (t.freeze source now).1.Ready := by
  obtain ⟨-, failed⟩ | ⟨id, -, ⟨-, failed⟩ | ⟨nodes, granted⟩⟩ := freeze_cases opened source now
  · rw [failed] at closed
    cases opened.symm.trans closed
  · rw [failed] at closed
    cases opened.symm.trans closed
  · rw [granted]
    exact ⟨Option.some_ne_none _, nodes, Option.some_ne_none _⟩

/-- Signatures are no part of what makes a transaction ready. -/
theorem ready_withSignatures {t : Transaction} {signatures : List SignaturePair} :
    Ready { t with signatures := signatures } ↔ t.Ready :=
  ⟨fun ready => ⟨ready.identified, ready.placed, ready.priced⟩,
    fun ready => ⟨ready.identified, ready.placed, ready.priced⟩⟩

/-- A change to an open transaction that leaves it open. -/
theorem frozen_edit {t : Transaction} {change : Transaction → Transaction}
    (opened : t.frozen = false) (stays : (change t).frozen = false) :
    (t.answer (t.edit change)).1.frozen = false := by
  rw [edit_of_open opened]
  exact stays

/-- No call makes a frozen transaction that is not ready. -/
theorem ready_act {t : Transaction} (ready : t.frozen = true → t.Ready) (action : Action)
    (closed : (t.act action).1.frozen = true) : (t.act action).1.Ready := by
  cases frozen : t.frozen with
  | true =>
      obtain ⟨signatures, after⟩ := act_of_frozen frozen action
      rw [after]
      exact ready_withSignatures.2 (ready frozen)
  | false =>
      cases action with
      | setId id | setNodes nodes | setMaxFee fee | setMemo memo =>
          cases closed.symm.trans (frozen_edit frozen frozen)
      | freeze source now => exact ready_freeze frozen closed
      | sign key =>
          obtain ⟨e, refused⟩ | ⟨-, -, frozen', -⟩ := t.sign_cases key
          · rw [act, refused] at closed
            cases frozen.symm.trans closed
          · cases frozen.symm.trans frozen'

/-- No run makes a frozen transaction that is not ready, if it starts from none. -/
theorem ready_run {t : Transaction} (ready : t.frozen = true → t.Ready) (actions : List Action)
    (closed : (t.run actions).frozen = true) : (t.run actions).Ready := by
  induction actions generalizing t with
  | nil => exact ready closed
  | cons action rest inductionHypothesis =>
      exact inductionHypothesis (ready_act ready action) closed

/-- However a new transaction is edited, frozen and signed, it is ready once it is frozen. -/
theorem ready_run_ofBody (body : Body) (actions : List Action)
    (closed : ((ofBody body).run actions).frozen = true) : ((ofBody body).run actions).Ready :=
  ready_run (t := ofBody body) nofun actions closed

/-! ### Frozen from bytes -/

/-- Bytes name a node at least. -/
def NamesNodes (bs : List UInt8) : Prop :=
  ∃ r, (Json.readBytes bs).root.part? 1 "nodeAccountIds" = some r ∧ r ≠ .array [] none

/-- Bytes name the most that the transaction may cost. -/
def NamesFee (bs : List UInt8) : Prop :=
  ∃ r, (Json.readBytes bs).root.part? 2 "maxTransactionFee" = some r ∧ r ≠ .null

/-- A transaction has the nodes and the fee that its record names, and no others. -/
theorem parts_of_decode {origin : Json.Origin} {r : Json.Reading} {t : Transaction}
    (decoded : decode origin r = .ok t) :
    (t.nodes ≠ [] ↔ ∃ part, r.part? 1 "nodeAccountIds" = some part ∧ part ≠ .array [] none) ∧
      (t.maxFee ≠ none ↔ ∃ part, r.part? 2 "maxTransactionFee" = some part ∧ part ≠ .null) := by
  obtain ⟨parts, taken, same⟩ := Json.parts_of_record decoded
  obtain ⟨_, _, toBody, -, rfl⟩ := Json.both_eq_ok.1 taken
  obtain ⟨_, _, toMemo, -, rfl⟩ := Json.both_eq_ok.1 toBody
  obtain ⟨_, _, toFee, -, rfl⟩ := Json.both_eq_ok.1 toMemo
  obtain ⟨_, fee, toNodes, feeTaken, rfl⟩ := Json.both_eq_ok.1 toFee
  obtain ⟨_, nodes, toId, nodesTaken, rfl⟩ := Json.both_eq_ok.1 toNodes
  obtain ⟨_, _, ⟨⟩, -, rfl⟩ := Json.both_eq_ok.1 toId
  rw [← same, ← same]
  constructor
  · exact Json.Fields.ne_default_iff nodesTaken fun _ _ => Json.decodeList_eq_nil_iff
  · have unpriced : fee.map Tinybars.mk ≠ none ↔ fee ≠ none := by
      cases fee <;> simp
    rw [unpriced]
    exact Json.Fields.ne_default_iff feeTaken fun _ _ => Json.decodeOption_eq_none_iff

/-- What bytes hold has the nodes and the fee that the bytes name. -/
theorem parts_of_ofBytes {bs : List UInt8} {t : Transaction} (held : ofBytes bs = .ok t) :
    (t.nodes ≠ [] ↔ NamesNodes bs) ∧ (t.maxFee ≠ none ↔ NamesFee bs) := by
  unfold ofBytes at held
  split at held
  · cases held
  · rename_i t' decoded
    obtain ⟨_, made, ended⟩ := Json.bind_eq_ok.1 decoded
    have parts : (t'.nodes ≠ [] ↔ NamesNodes bs) ∧ (t'.maxFee ≠ none ↔ NamesFee bs) := by
      split at ended
      · cases ended
      · cases ended
        exact parts_of_decode made
    split at held
    · cases held
    · cases held
      exact parts

/-- Only a frozen transaction has bytes. -/
theorem frozen_of_toBytes {t : Transaction} {bs : List UInt8} (written : t.toBytes = .ok bs) :
    t.frozen = true := by
  by_contra opened
  rw [toBytes, toText, if_neg opened] at written
  cases written

/-- The bytes of a transaction that is ready name its nodes and its fee. -/
theorem names_of_toBytes {t : Transaction} {bs : List UInt8} (ready : t.Ready)
    (written : t.toBytes = .ok bs) : NamesNodes bs ∧ NamesFee bs := by
  rw [toBytes_of_frozen (frozen_of_toBytes written)] at written
  obtain rfl := Except.ok.inj written
  have part (index : Nat) (name : String) (v : Json)
      (stands : ∀ members, t.toJson = .object members → members.lookup name = some v) :
      (Json.readBytes (Text.bytes t.toJson.render)).root.part? index name = some v.toReading := by
    rw [Json.readBytes_render t.fits_toJson, toJson, Json.toReading]
    exact (Json.lookup_memberReadings name _).trans (congrArg _ (stands _ rfl))
  constructor
  · refine ⟨_, part 1 "nodeAccountIds" (Body.list EntityId.toJson t.nodes) ?_, ?_⟩
    · rintro _ ⟨⟩
      simp [List.lookup_append, Json.lookup_member?]
    · obtain ⟨node, rest, named⟩ := List.exists_cons_of_ne_nil ready.placed
      simp [named, Body.list, Json.toReading, Json.itemReadings]
  · obtain ⟨fee, priced⟩ := Option.ne_none_iff_exists'.1 ready.priced
    refine ⟨_, part 2 "maxTransactionFee" (.uint64 fee.count) ?_, Json.Reading.noConfusion⟩
    rintro _ ⟨⟩
    simp [List.lookup_append, List.lookup_cons, Json.lookup_member?, priced]

/-- What bytes hold is frozen and has an identity.  It has nodes and a fee if the bytes name
them, and never gets any that they do not: whatever is done with it, freezing included, it is
ready exactly where the bytes name both.  The bytes of whatever a new transaction is frozen into
do name both, so it is other bytes that can leave a transaction wanting. -/
theorem ready_course_ofBytes {bs : List UInt8} {t : Transaction} (held : ofBytes bs = .ok t) :
    (t.frozen = true ∧ t.id ≠ none ∧ (t.nodes ≠ [] ↔ NamesNodes bs) ∧
        (t.maxFee ≠ none ↔ NamesFee bs)) ∧
      (∀ handlings, (t.course handlings).frozen = true ∧
        ((t.course handlings).Ready ↔ NamesNodes bs ∧ NamesFee bs)) ∧
      ∀ body actions, ((ofBody body).run actions).toBytes = .ok bs →
        NamesNodes bs ∧ NamesFee bs := by
  have settled := settled_of_ofBytes held
  obtain ⟨placed, priced⟩ := parts_of_ofBytes held
  have identified : t.id ≠ none := by
    obtain ⟨id, known, -⟩ := settled.inRange
    rw [known]
    exact Option.some_ne_none id
  refine ⟨⟨settled.frozen, identified, placed, priced⟩, fun handlings => ?_,
    fun body actions written => ?_⟩
  · obtain ⟨signatures, after⟩ := course_of_settled settled handlings
    rw [after, ready_withSignatures, ← placed, ← priced]
    refine ⟨settled.frozen, ?_⟩
    constructor
    · intro ready
      exact ⟨ready.placed, ready.priced⟩
    · rintro ⟨nodes, fee⟩
      exact ⟨identified, nodes, fee⟩
  · exact names_of_toBytes (ready_run_ofBody body actions (frozen_of_toBytes written)) written

theorem ready_course_ofBytes_signedTransfer :
    ∃ bs, ofBytes bs = .ok signedTransfer ∧ NamesNodes bs ∧ NamesFee bs ∧
      ∀ handlings, (signedTransfer.course handlings).Ready := by
  have held : ofBytes (Text.bytes signedTransfer.toJson.render) = .ok signedTransfer :=
    ofBytes_render rfl (by decide)
  obtain ⟨⟨-, -, placed, priced⟩, lasting, -⟩ := ready_course_ofBytes held
  have nodes := placed.1 (by decide)
  have fee := priced.1 (by decide)
  exact ⟨_, held, nodes, fee, fun handlings => (lasting handlings).2.2 ⟨nodes, fee⟩⟩

/-- The text of a transaction that names neither a node nor a fee. -/
def bareText : String :=
  "\x7b\"transactionId\":\"0.0.1@1.500000000\",\"body\":" ++
    "\x7b\"type\":\"topicDelete\",\"topicId\":\"0.0.77\"\x7d\x7d"

def bare : Transaction :=
  ⟨some ⟨⟨0, 0, 1⟩, ⟨1, 500000000⟩⟩, [], none, none, .topicDelete ⟨0, 0, 77⟩, [], true⟩

theorem ofBytes_bareText : ofBytes (Text.bytes bareText) = .ok bare := by
  have held : (ofBytes (Text.bytes bareText)).toOption = some bare := by decide +kernel
  cases result : ofBytes (Text.bytes bareText) with
  | error e =>
      rw [result] at held
      cases held
  | ok t =>
      rw [result] at held
      exact congrArg Except.ok (Option.some.inj held)

/-- A frozen transaction without nodes and without a fee, which freezing does not give any. -/
theorem not_ready_bareText :
    ∃ t, ofBytes (Text.bytes bareText) = .ok t ∧ t.frozen = true ∧ ¬ t.Ready ∧ t.nodes = [] ∧
      t.maxFee = none ∧ ∀ source now, t.freeze source now = (t, .ok ()) :=
  ⟨bare, ofBytes_bareText, rfl, fun ready => ready.placed rfl, rfl, rfl,
    freeze_of_frozen rfl⟩

end LedgerAgent.Transaction
