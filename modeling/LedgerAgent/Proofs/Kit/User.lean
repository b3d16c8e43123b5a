/-
Module: LedgerAgent.Proofs.Kit.User
Purpose: What a kit does in its user's name: it hands bytes out and nothing else, and who the
  client's operator is makes no difference to them.
Main exports: Kit.handOut, Kit.ends_perform_user, Kit.SameUser, Kit.perform_sameUser
-/
import LedgerAgent.Proofs.Kit.Actor
import LedgerAgent.Proofs.Transaction.Freezing

namespace LedgerAgent

/-- Bytes for an account to sign take one reading of the clock, and nothing is sent. -/
theorem Instruction.ends_bytesToSign (i : Instruction) (source : FreezeSource)
    (account : AccountId) (outside : Outside) (wire : Wire) :
    Ends outside (i.bytesToSign source (some account)) wire fun result after =>
      result = (if source.nodes = [] then .error (.refused (.freeze .noNodes))
        else .ok (i.unsigned account source.nodes (outside.clock wire.readings)).encoded) ∧
        after.requests = wire.requests ∧ after.readings = wire.readings + 1 := by
  refine ⟨i.bytesToSign_fst source account outside wire, ?_⟩
  change Ends outside (i.bytesToSign source (some account)) wire fun _ after =>
    after.requests = wire.requests ∧ after.readings = wire.readings + 1
  rw [bytesToSign]
  simp only [ends_bind, Exchange.ends_log, Option.mapM_some, ends_map, Exchange.ends_now,
    ends_pure]
  refine (Transaction.ends_freezeNow _ source outside _).mono ?_
  rintro ⟨t, frozen⟩ after ⟨-, unasked, unread⟩
  -- the identity is there, so that freezing needs no second reading
  have once : after.readings = wire.readings + 1 := unread
  dsimp only
  split
  · exact ⟨unasked, once⟩
  · exact ⟨unasked, once⟩

namespace Kit

variable {kit : Kit} {action : Action} {mode : Option Bool} {outside : Outside}
  {journal : Journal}

/-- What a change in the user's name comes to: the bytes of the transaction that makes it as of
an instant, or an error. -/
def handOut (kit : Kit) (action : Action) (now : Instant) : Except KitError Outcome :=
  match action.instruction kit.user with
  | .error e => .error (.amount e)
  | .ok i =>
    if kit.client.nodes = [] then .error (.submission (.refused (.freeze .noNodes)))
    else .ok (.unsigned i.operation (i.unsigned kit.account kit.client.nodes now).encoded)

/-- An instruction for the user is handed out. -/
theorem ends_submit_user (i : Instruction) :
    Ends outside (kit.submit kit.user i).run journal fun result after =>
      result = (if kit.client.nodes = [] then .error (.submission (.refused (.freeze .noNodes)))
        else .ok (.unsigned i.operation (i.unsigned kit.account kit.client.nodes
          (outside.clock journal.wire.readings)).encoded)) ∧
        after.calls = journal.calls ∧ after.wire.requests = journal.wire.requests ∧
        journal.wire.readings < after.wire.readings := by
  have unoperated : kit.user.custodial = false := rfl
  rw [submit, ends_run_bind, ends_run_lift, Session.ends_log]
  simp only [unoperated, Bool.false_eq_true, if_false, ends_run_bind, ends_run_lift,
    Session.ends_inSession]
  refine (i.ends_bytesToSign kit.client.source kit.account outside _).mono ?_
  rintro result after ⟨rfl, unasked, read⟩
  have later : journal.wire.readings < after.readings := by
    rw [read, Journal.readings_tell]
    exact Nat.lt_succ_self _
  have reached : kit.client.source.nodes = kit.client.nodes := rfl
  rw [reached]
  by_cases nodeless : kit.client.nodes = []
  · simp only [if_pos nodeless]
    exact ⟨rfl, rfl, unasked, later⟩
  · simp only [if_neg nodeless]
    exact ⟨rfl, rfl, unasked, later⟩

/-- A change in the user's name comes to what is handed out as of the next reading of the clock.
No client is called and nothing is sent; where there are bytes the clock was read. -/
theorem ends_perform_user (own : mode.getD kit.custodial = false) :
    Ends outside (kit.perform action mode).run journal fun result after =>
      result = kit.handOut action (outside.clock journal.wire.readings) ∧
        after.calls = journal.calls ∧ after.wire.requests = journal.wire.requests ∧
        journal.wire.readings ≤ after.wire.readings ∧
        (∀ outcome, result = .ok outcome → journal.wire.readings < after.wire.readings) := by
  have acting : kit.actor? mode = some kit.user := by
    rw [actor?, own, if_neg Bool.false_ne_true]
  rw [perform, ends_run_bind, handOut]
  refine ends_actor.mono ?_
  rintro result before ⟨rfl, uncalled, unasked, unread⟩
  rw [acting, Option.elim_some]
  dsimp only
  cases action.instruction kit.user with
  | error e =>
      refine ⟨rfl, uncalled, unasked, Nat.le_of_eq unread.symm, ?_⟩
      intro outcome good
      cases good
  | ok i =>
      refine (ends_submit_user i).mono ?_
      rintro result after ⟨told, uncalled', unasked', read⟩
      rw [unread] at told read
      exact ⟨told, uncalled'.trans uncalled, unasked'.trans unasked, Nat.le_of_lt read,
        fun _ _ => read⟩

/-- What is handed out is a transaction that nobody has signed, in base64. -/
theorem unsigned_of_handOut {now : Instant} {outcome : Outcome}
    (handed : kit.handOut action now = .ok outcome) :
    ∃ operation t, outcome = .unsigned operation t.encoded ∧ t.signatures = [] ∧
      t.id = some (.generate kit.account now) ∧
      (now.WithinSecond → Transaction.ofEncoded? t.encoded = some t) := by
  rw [handOut] at handed
  split at handed
  · cases handed
  · rename_i i settled
    split at handed
    · cases handed
    · cases handed
      exact ⟨_, _, rfl, rfl, rfl, fun clock => Transaction.ofEncoded?_encoded rfl rfl clock⟩

/-! ### Whoever the operator is -/

/-- Two kits with the same user, whose clients name the same nodes. -/
structure SameUser (kit kit' : Kit) : Prop where
  account : kit.account = kit'.account
  publicKey : kit.publicKey = kit'.publicKey
  nodes : kit.client.nodes = kit'.client.nodes

/-- Kits of one user hand out the same. -/
theorem SameUser.handOut {kit' : Kit} (same : kit.SameUser kit') (action : Action)
    (now : Instant) : kit.handOut action now = kit'.handOut action now := by
  have user : kit.user = kit'.user := by rw [Kit.user, Kit.user, same.account, same.publicKey]
  rw [Kit.handOut, Kit.handOut, user, same.account, same.nodes]

/-- In the user's name a change comes to the same with two kits that have the same user and the
same nodes, at the same time, whoever their clients' operators are and whatever their clients do:
the same error, or the same bytes, in which nobody has signed.  It never fails for want of the
operator's key, no client is called, and nothing is sent. -/
theorem perform_sameUser {kit kit' : Kit} (same : kit.SameUser kit') (action : Action)
    {mode mode' : Option Bool} (own : mode.getD kit.custodial = false)
    (own' : mode'.getD kit'.custodial = false) (outside outside' : Outside)
    (journal journal' : Journal)
    (clock : outside.clock journal.wire.readings = outside'.clock journal'.wire.readings) :
    Ends outside (kit.perform action mode).run journal fun result after =>
      Ends outside' (kit'.perform action mode').run journal' fun result' after' =>
        result = result' ∧ result ≠ .error .missingPrivateKey ∧
        (∀ outcome, result = .ok outcome → ∃ operation t,
          outcome = .unsigned operation t.encoded ∧ t.signatures = [] ∧
            ((outside.clock journal.wire.readings).WithinSecond →
              Transaction.ofEncoded? t.encoded = some t)) ∧
        after.calls = journal.calls ∧ after'.calls = journal'.calls ∧
        after.wire.requests = journal.wire.requests ∧
        after'.wire.requests = journal'.wire.requests := by
  refine (ends_perform_user own).mono ?_
  rintro result after ⟨told, uncalled, unasked, -⟩
  refine (ends_perform_user own').mono ?_
  rintro result' after' ⟨told', uncalled', unasked', -⟩
  refine ⟨?_, ?_, ?_, uncalled, uncalled', unasked, unasked'⟩
  · rw [told, told', same.handOut, clock]
  · rw [told, handOut]
    split
    · nofun
    · split <;> nofun
  · intro outcome good
    obtain ⟨operation, t, handed, unsigned, -, found⟩ :=
      unsigned_of_handOut (told.symm.trans good)
    exact ⟨operation, t, handed, unsigned, found⟩

theorem perform_sameUser_hbarTransfer :
    unoperated.operator? = none ∧ operated.operator? ≠ none ∧
      (unoperated.perform (.transferHbar ⟨0, 0, 5006⟩ ⟨250⟩) none cutOff .empty).1 =
        (operated.perform (.transferHbar ⟨0, 0, 5006⟩ ⟨250⟩) (some false) cutOff .empty).1 := by
  have keyed : unoperated.publicKey = operated.publicKey := by rw [operated]
  have same : unoperated.SameUser operated := ⟨rfl, keyed, rfl⟩
  obtain ⟨result, -⟩ := perform_sameUser same (.transferHbar ⟨0, 0, 5006⟩ ⟨250⟩)
    (rfl : (none : Option Bool).getD unoperated.custodial = false)
    (rfl : (some false).getD operated.custodial = false) cutOff cutOff .empty .empty rfl
  exact ⟨rfl, nofun, result⟩

end Kit

end LedgerAgent
