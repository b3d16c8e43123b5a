/-
Module: LedgerAgent.Proofs.Transaction.Freezing
Purpose: What freezing against a client does to the world and to the transaction.  Where it fails,
  an identity that was made for the client's operator may stay behind; where it succeeds, it fills
  the gaps and touches nothing else.
Main exports: Transaction.ends_freezeNow, Transaction.failed_freezeNow,
  Transaction.freezeNow_nodeless, Transaction.FilledIn, Transaction.freezeNow_fills
-/
import LedgerAgent.Proofs.Submission

namespace LedgerAgent

namespace Transaction

/-! ### The world -/

/-- How often freezing reads the clock: once if it makes an identity, else not at all. -/
def readingsToFreeze (t : Transaction) (source : FreezeSource) : Nat :=
  if !t.frozen && (t.id.isNone && source.payer.isSome) then 1 else 0

/-- Freezing goes as of the next reading of the clock, and sends nothing. -/
theorem ends_freezeNow (t : Transaction) (source : FreezeSource) (outside : Outside)
    (wire : Wire) :
    Ends outside (t.freezeNow source) wire fun result after =>
      result = t.freeze source (outside.clock wire.readings) ∧
        after.requests = wire.requests ∧
        after.readings = wire.readings + t.readingsToFreeze source := by
  refine ⟨t.freezeNow_fst source outside wire, ?_⟩
  change Ends outside (t.freezeNow source) wire fun _ after =>
    after.requests = wire.requests ∧ after.readings = wire.readings + t.readingsToFreeze source
  rw [freezeNow, readingsToFreeze]
  cases frozen : t.frozen with
  | true => exact ⟨rfl, rfl⟩
  | false =>
      rw [if_neg Bool.false_ne_true, Bool.not_false, Bool.true_and]
      cases read : t.id.isNone && source.payer.isSome with
      | true =>
          rw [if_pos rfl, if_pos rfl, ends_bind, Exchange.ends_now]
          beta_reduce
          rcases t.freeze source (outside.clock wire.readings) with ⟨t', _ | _⟩
          · exact ⟨rfl, rfl⟩
          · exact ⟨rfl, rfl⟩
      | false =>
          rw [if_neg Bool.false_ne_true, if_neg Bool.false_ne_true, ends_bind, ends_pure]
          beta_reduce
          rcases t.freeze source ⟨0, 0⟩ with ⟨t', _ | _⟩
          · exact ⟨rfl, rfl⟩
          · exact ⟨rfl, rfl⟩

/-! ### What it settles on -/

/-- There is an identity to freeze with if the transaction has one or the client an operator. -/
theorem idFrom_ne_none_iff {t : Transaction} {source : FreezeSource} {now : Instant} :
    t.idFrom source now ≠ none ↔ t.id ≠ none ∨ source.payer ≠ none := by
  simp only [idFrom, ne_eq, Option.or_eq_none_iff, Option.map_eq_none_iff, not_and_or]

/-- Without an identity of its own, a transaction gets one of the source's payer, if there is
one. -/
theorem idFrom_of_nameless {t : Transaction} (nameless : t.id = none) (source : FreezeSource)
    (now : Instant) : t.idFrom source now = source.payer.map fun payer => .generate payer now := by
  rw [idFrom, nameless, Option.none_or]

/-- There are nodes to freeze with if the transaction or the client names any. -/
theorem nodesFrom_ne_nil_iff {t : Transaction} {source : FreezeSource} :
    t.nodesFrom source ≠ [] ↔ t.nodes ≠ [] ∨ source.nodes ≠ [] := by
  cases own : t.nodes with
  | nil => simp [nodesFrom, own]
  | cons node rest => simp [nodesFrom, own]

/-- A source with nodes leaves no transaction without any. -/
theorem nodesFrom_ne_nil (t : Transaction) {source : FreezeSource} (nodes : source.nodes ≠ []) :
    t.nodesFrom source ≠ [] :=
  nodesFrom_ne_nil_iff.2 (.inr nodes)

/-! ### Failure -/

/-- Only an open transaction can fail to be frozen. -/
theorem open_of_freeze_failed {t t' : Transaction} {source : FreezeSource} {now : Instant}
    {e : TransactionError} (failed : t.freeze source now = (t', .error e)) : t.frozen = false := by
  cases frozen : t.frozen with
  | false => rfl
  | true =>
      rw [freeze_of_frozen frozen] at failed
      cases failed

/-- Where freezing fails, the transaction keeps all but its identity: that becomes the one
which freezing settles on. -/
theorem eq_of_freeze_failed {t t' : Transaction} {source : FreezeSource} {now : Instant}
    {e : TransactionError} (failed : t.freeze source now = (t', .error e)) :
    t' = { t with id := t.idFrom source now } := by
  rcases freeze_cases (open_of_freeze_failed failed) source now with
    ⟨nobody, refused⟩ | ⟨id, found, ⟨nowhere, refused⟩ | ⟨somewhere, granted⟩⟩
  · cases refused.symm.trans failed
    -- without anybody to pay there was no identity before either
    have nameless : t.id = none := (Option.or_eq_none_iff.1 nobody).1
    rw [nobody, ← nameless]
  · cases refused.symm.trans failed
    have placeless : t.nodes = [] := by
      by_contra named
      rw [nodesFrom, if_neg (mt List.isEmpty_iff.1 named)] at nowhere
      exact named nowhere
    rw [found, ← placeless]
  · cases granted.symm.trans failed

/-- An open transaction that has an identity is closed by any client with nodes, and keeps
the identity. -/
theorem id_freeze_of_id {t : Transaction} {id : TransactionId} (opened : t.frozen = false)
    (known : t.id = some id) (source : FreezeSource) (nodes : source.nodes ≠ []) (now : Instant) :
    (t.freeze source now).2 = .ok () ∧ (t.freeze source now).1.id = some id := by
  have settled : t.idFrom source now = some id := by rw [idFrom, known, Option.some_or]
  have somewhere : t.nodesFrom source ≠ [] := t.nodesFrom_ne_nil nodes
  rcases freeze_cases opened source now with
    ⟨nobody, -⟩ | ⟨id', found, ⟨nowhere, -⟩ | ⟨-, granted⟩⟩
  · cases settled.symm.trans nobody
  · exact absurd nowhere somewhere
  · cases settled.symm.trans found
    rw [granted]
    exact ⟨rfl, rfl⟩

/-- Freezing settles on the identity that is there already, if it is, or if there is nobody to
make one of. -/
theorem idFrom_eq_id_iff {t : Transaction} {source : FreezeSource} {now : Instant} :
    t.idFrom source now = t.id ↔ (t.id = none → source.payer = none) := by
  cases own : t.id with
  | none =>
      rw [idFrom_of_nameless own, Option.map_eq_none_iff]
      exact ⟨fun nobody _ => nobody, fun nobody => nobody rfl⟩
  | some id =>
      rw [idFrom, own, Option.some_or]
      constructor
      · intro _ nothing
        cases nothing
      · intro _
        rfl

/-- A failed freezing leaves an open transaction with the nodes, fee, memo, body and signatures
that it had.  It leaves the identity too, unless there was none and the client has an operator:
then an identity of the operator as of the next reading of the clock stays, and whoever freezes
the transaction later, and has nodes, closes it with the first client's operator as the payer. -/
theorem failed_freezeNow (t : Transaction) (client : LedgerClient) (outside : Outside)
    (wire : Wire) {t' : Transaction} {e : TransactionError}
    (failed : (t.freezeNow client.source outside wire).1 = (t', .error e)) :
    t.frozen = false ∧ (t' = t ↔ (t.id = none → client.operatorAccount = none)) ∧
      ∀ operator, t.id = none → client.operatorAccount = some operator →
        let id := TransactionId.generate operator (outside.clock wire.readings)
        t' = { t with id := some id } ∧
          ∀ (later : LedgerClient) (outside' : Outside) (wire' : Wire), later.nodes ≠ [] →
            let frozen := (t'.freezeNow later.source outside' wire').1
            frozen.2 = .ok () ∧ frozen.1.id = some id := by
  have course := (t.freezeNow_fst client.source outside wire).symm.trans failed
  have opened := open_of_freeze_failed course
  have left := eq_of_freeze_failed course
  have kept_iff : t' = t ↔ t.idFrom client.source (outside.clock wire.readings) = t.id := by
    rw [left]
    constructor
    · intro same
      exact congrArg Transaction.id same
    · intro same
      rw [same]
  refine ⟨opened, kept_iff.trans idFrom_eq_id_iff, ?_⟩
  · intro operator nameless operated id
    have made : t.idFrom client.source (outside.clock wire.readings) = some id := by
      rw [idFrom_of_nameless nameless]
      exact congrArg (Option.map _) operated
    rw [made] at left
    have stillOpen : t'.frozen = false := by rw [left, opened]
    have known : t'.id = some id := by rw [left]
    refine ⟨left, ?_⟩
    intro later outside' wire' nodes
    rw [freezeNow_fst]
    exact id_freeze_of_id stillOpen known later.source nodes _

/-- A client whose network names no nodes. -/
def nodeless : LedgerClient where
  network := .testnet
  nodes := []
  operatorAccount := some ⟨0, 0, 1001⟩
  operatorKey := none
  execute _ := return .error (.prepare (.freeze .noNodes))
  receipt _ := return .error (.request "no route")

/-- A world in which the clock stands still and every connection breaks. -/
def stillWorld : Outside where
  clock _ := ⟨1700000000, 1⟩
  http _ _ := .dropped

theorem failed_freezeNow_unnamed :
    let t := ofBody (.topicDelete ⟨0, 0, 77⟩)
    let frozen := (t.freezeNow nodeless.source stillWorld .empty).1
    frozen.2 = .error (.freeze .noNodes) ∧ frozen.1 ≠ t ∧
      ∀ later : LedgerClient, later.nodes ≠ [] →
        (frozen.1.freezeNow later.source stillWorld .empty).1.1.id =
          some ⟨⟨0, 0, 1001⟩, ⟨1700000000, 1⟩⟩ := by
  intro t frozen
  have failed : (t.freezeNow nodeless.source stillWorld .empty).1 =
      (frozen.1, .error (.freeze .noNodes)) := rfl
  obtain ⟨-, kept, stays⟩ := failed_freezeNow t nodeless stillWorld .empty failed
  refine ⟨rfl, ?_, ?_⟩
  · intro same
    cases kept.1 same rfl
  · intro later nodes
    exact ((stays _ rfl rfl).2 later stillWorld .empty nodes).2

/-- Freezing that fails for want of nodes has made an identity before it fails, and leaves it. -/
theorem freezeNow_nodeless :
    let t := ofBody (.topicDelete ⟨0, 0, 77⟩)
    let frozen := (t.freezeNow nodeless.source stillWorld .empty).1
    frozen.2 = .error (.freeze .noNodes) ∧ frozen.1 ≠ t ∧ t.id = none ∧
      frozen.1.id = some ⟨⟨0, 0, 1001⟩, ⟨1700000000, 1⟩⟩ := by
  refine ⟨rfl, ?_, rfl, rfl⟩
  intro same
  cases congrArg Transaction.id same

/-! ### Success -/

/-- An open transaction has been closed against a client as of an instant: what it said itself it
still says, and of what it left open the client gave the payer and the nodes, and the fee is the
default one. -/
structure FilledIn (t : Transaction) (client : LedgerClient) (now : Instant) (t' : Transaction) :
    Prop where
  frozen : t'.frozen = true
  keepsId : ∀ id, t.id = some id → t'.id = some id
  fillsId : t.id = none →
    ∃ operator, client.operatorAccount = some operator ∧ t'.id = some ⟨operator, now⟩
  keepsNodes : t.nodes ≠ [] → t'.nodes = t.nodes
  fillsNodes : t.nodes = [] → t'.nodes = client.nodes
  keepsFee : ∀ fee, t.maxFee = some fee → t'.maxFee = some fee
  fillsFee : t.maxFee = none → t'.maxFee = some defaultMaxFee
  memo : t'.memo = t.memo
  body : t'.body = t.body
  signatures : t'.signatures = t.signatures

/-- Freezing an open transaction is granted exactly if it settles on an identity and on nodes. -/
theorem freeze_granted_iff {t : Transaction} (opened : t.frozen = false) (source : FreezeSource)
    (now : Instant) :
    (t.freeze source now).2 = .ok () ↔ t.idFrom source now ≠ none ∧ t.nodesFrom source ≠ [] := by
  rcases freeze_cases opened source now with
    ⟨nobody, refused⟩ | ⟨id, found, ⟨nowhere, refused⟩ | ⟨somewhere, granted⟩⟩
  · simp [refused, nobody]
  · simp [refused, nowhere]
  · simp [granted, found, somewhere]

/-- A granted freezing fills the gaps of an open transaction and touches nothing else. -/
theorem filledIn_of_freeze {t : Transaction} (opened : t.frozen = false) {client : LedgerClient}
    {now : Instant} (granted : (t.freeze client.source now).2 = .ok ()) :
    t.FilledIn client now (t.freeze client.source now).1 := by
  rcases freeze_cases opened client.source now with
    ⟨nobody, refused⟩ | ⟨id, found, ⟨nowhere, refused⟩ | ⟨somewhere, closed⟩⟩
  · cases (congrArg Prod.snd refused).symm.trans granted
  · cases (congrArg Prod.snd refused).symm.trans granted
  · have settled : t.idFrom client.source now = (t.freeze client.source now).1.id := by
      simp only [found, closed]
    rw [closed] at settled ⊢
    refine
      { frozen := rfl, memo := rfl, body := rfl, signatures := rfl
        keepsId := ?_, fillsId := ?_, keepsNodes := ?_, fillsNodes := ?_, keepsFee := ?_
        fillsFee := ?_ }
    · intro own known
      exact settled.symm.trans (by simp [idFrom, known])
    · intro nameless
      rw [idFrom_of_nameless nameless] at settled
      obtain ⟨operator, operated, made⟩ := Option.map_eq_some_iff.1 settled
      exact ⟨operator, operated, congrArg some made.symm⟩
    · intro named
      exact if_neg (mt List.isEmpty_iff.1 named)
    · intro unnamed
      exact if_pos (List.isEmpty_iff.2 unnamed)
    · intro fee set
      simp [set]
    · intro unset
      simp [unset]

/-- Freezing a frozen transaction asks nobody and reads no clock. -/
theorem freezeNow_of_frozen {t : Transaction} (frozen : t.frozen = true) (source : FreezeSource)
    (outside : Outside) (wire : Wire) : t.freezeNow source outside wire = ((t, .ok ()), wire) := by
  rw [freezeNow, if_pos frozen]
  rfl

/-- Freezing an open transaction succeeds exactly if there is an identity or an operator to make
one of, and there are nodes in the transaction or in the client.  Then it fills the gaps and
touches nothing that was set; and freezing again, whoever the client is and whatever the world
is like, succeeds, changes nothing and does nothing. -/
theorem freezeNow_fills {t : Transaction} (opened : t.frozen = false) (client : LedgerClient)
    (outside : Outside) (wire : Wire) :
    Ends outside (t.freezeNow client.source) wire fun (t', result) _ =>
      (result = .ok () ↔ (t.id ≠ none ∨ client.operatorAccount ≠ none) ∧
        (t.nodes ≠ [] ∨ client.nodes ≠ [])) ∧
      (result = .ok () → t.FilledIn client (outside.clock wire.readings) t' ∧
        ∀ (later : LedgerClient) (outside' : Outside) (wire' : Wire),
          t'.freezeNow later.source outside' wire' = ((t', .ok ()), wire')) := by
  apply (t.ends_freezeNow client.source outside wire).mono
  rintro ⟨t', result⟩ after ⟨course, -⟩
  have left : (t.freeze client.source (outside.clock wire.readings)).1 = t' :=
    congrArg Prod.fst course.symm
  have answered : (t.freeze client.source (outside.clock wire.readings)).2 = result :=
    congrArg Prod.snd course.symm
  have granted_iff := freeze_granted_iff opened client.source (outside.clock wire.readings)
  rw [answered] at granted_iff
  constructor
  · exact granted_iff.trans (and_congr idFrom_ne_none_iff nodesFrom_ne_nil_iff)
  · intro granted
    have filled := filledIn_of_freeze opened (answered.trans granted)
    rw [left] at filled
    exact ⟨filled, fun later => freezeNow_of_frozen filled.frozen later.source⟩

theorem freezeNow_fills_named :
    let t : Transaction := { ofBody (.topicDelete ⟨0, 0, 77⟩) with
      nodes := [⟨0, 0, 3⟩], memo := some "gone" }
    t.frozen = false ∧
      Ends stillWorld (t.freezeNow nodeless.source) .empty fun (t', result) _ =>
        result = .ok () ∧ t'.id = some ⟨⟨0, 0, 1001⟩, ⟨1700000000, 1⟩⟩ ∧
          t'.nodes = [⟨0, 0, 3⟩] ∧ t'.maxFee = some defaultMaxFee ∧ t'.memo = some "gone" := by
  intro t
  have opened : t.frozen = false := rfl
  obtain ⟨granted_iff, fills⟩ := freezeNow_fills opened nodeless stillWorld .empty
  have granted := granted_iff.2 ⟨.inr nofun, .inl nofun⟩
  obtain ⟨filled, -⟩ := fills granted
  obtain ⟨operator, operated, identified⟩ := filled.fillsId rfl
  cases operated
  exact ⟨opened, granted, identified, filled.keepsNodes nofun, filled.fillsFee rfl, filled.memo⟩

end Transaction

end LedgerAgent
