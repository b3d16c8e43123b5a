/-
Module: LedgerAgent.Proofs.Kit.Identity
Purpose: How the transactions are identified that come of calls on a kit in a row: by who pays
  for them and by the instant that the clock showed, so that a clock which stands still makes
  one identity twice.
Main exports: Kit.course, Kit.issues_perform, Kit.issues_course, Kit.ids_course,
  Kit.course_standing
-/
import LedgerAgent.Proofs.Client
import LedgerAgent.Proofs.Kit.User

namespace LedgerAgent

variable {outside : Outside} {sent : List HttpRequest → List Transaction}

/-- Carrying an instruction out sends what the client sends. -/
theorem Instruction.sends_carryOut {client : LedgerClient} (stamping : client.Stamps outside sent)
    (i : Instruction) (journal : Journal) :
    Ends outside (i.carryOut client) journal fun _ after =>
      Sends outside (client.operatorAccount = some ·) sent journal.wire after.wire := by
  unfold carryOut
  simp only [ends_bind, Session.ends_lift, Session.ends_log, Session.ends_submit_iff]
  refine (stamping.executing (t := i.transaction) rfl rfl).mono ?_
  intro answer wire executed
  cases answer with
  | error e => exact executed
  | ok response =>
      simp only [ends_bind, Session.ends_lift, Session.ends_log, Session.ends_fetchReceipt_iff]
      refine stamping.asking.mono ?_
      intro answer final asked
      have both := executed.trans asked
      cases answer with
      | error e => exact both
      | ok receipt =>
          simp only [ends_bind, Session.ends_lift, Session.ends_log]
          split
          · exact both
          · exact both

namespace Kit

variable {kit : Kit} {action : Action} {mode : Option Bool} {journal : Journal}

/-- The transactions that somebody finds in what a call came to. -/
def handedOut : Except KitError Outcome → List Transaction
  | .ok (.unsigned _ text) => (Transaction.ofEncoded? text).toList
  | _ => []

/-- The transactions that were sent on the way from one journal to another, the latest last. -/
def sentBetween (sent : List HttpRequest → List Transaction) (before after : Journal) :
    List Transaction :=
  let all := sent after.wire.requests
  (all.take (all.length - (sent before.wire.requests).length)).reverse

/-- What was sent before counts no more. -/
theorem sentBetween_of_append {before after : Journal} {new : List Transaction}
    (put : sent after.wire.requests = new ++ sent before.wire.requests) :
    sentBetween sent before after = new.reverse := by
  rw [sentBetween, put, List.length_append, Nat.add_sub_cancel, List.take_left]

theorem sentBetween_of_unasked {before after : Journal}
    (unasked : after.wire.requests = before.wire.requests) :
    sentBetween sent before after = [] := by
  have put : sent after.wire.requests = [] ++ sent before.wire.requests := by
    rw [unasked, List.nil_append]
  exact sentBetween_of_append put

/-- The transactions that calls in a row produce, handed out as bytes or sent, and the journal
behind them. -/
def course (kit : Kit) (sent : List HttpRequest → List Transaction) (outside : Outside)
    (journal : Journal) : List (Action × Option Bool) → List Transaction × Journal
  | [] => ([], journal)
  | (action, mode) :: calls =>
    let (result, after) := (kit.perform action mode).run outside journal
    let (later, final) := kit.course sent outside after calls
    (handedOut result ++ sentBetween sent journal after ++ later, final)

/-- A course gives what its first call gives, and then what the others do. -/
theorem course_cons (calls : List (Action × Option Bool)) :
    (kit.course sent outside journal ((action, mode) :: calls)).1 =
      handedOut ((kit.perform action mode).run outside journal).1 ++
        sentBetween sent journal ((kit.perform action mode).run outside journal).2 ++
        (kit.course sent outside ((kit.perform action mode).run outside journal).2 calls).1 :=
  rfl

/-- Whoever pays for what a kit produces: its user, or the client's operator. -/
def Pays (kit : Kit) (account : AccountId) : Prop :=
  account = kit.account ∨ kit.client.operatorAccount = some account

/-- A call for the operator hands nothing out, and sends what the client sends. -/
theorem sends_perform_operator (stamping : kit.client.Stamps outside sent)
    (custodial : mode.getD kit.custodial = true) :
    Ends outside (kit.perform action mode).run journal fun result after =>
      handedOut result = [] ∧
        Sends outside (kit.client.operatorAccount = some ·) sent journal.wire after.wire := by
  refine ends_perform_operator custodial ?_ ?_
  · intro e after unasked unread
    exact ⟨rfl, .of_unasked unasked (Nat.le_of_eq unread.symm)⟩
  · intro i before unasked unread
    have silent : Sends outside (kit.client.operatorAccount = some ·) sent journal.wire
        before.wire := .of_unasked unasked (Nat.le_of_eq unread.symm)
    refine (i.sends_carryOut stamping _).mono ?_
    intro result after sends
    cases result with
    | error e => exact ⟨rfl, silent.trans sends⟩
    | ok completion => exact ⟨rfl, silent.trans sends⟩

/-- What one call produces is identified by who pays and by one reading of the clock, taken in
the call. -/
theorem issues_perform (stamping : kit.client.Stamps outside sent)
    (clock : ∀ reading, (outside.clock reading).WithinSecond) :
    Ends outside (kit.perform action mode).run journal fun result after =>
      ∃ stamps, Issues outside kit.Pays journal.wire.readings after.wire.readings
        (handedOut result ++ sentBetween sent journal after) stamps := by
  cases custodial : mode.getD kit.custodial with
  | true =>
      refine (sends_perform_operator stamping custodial).mono ?_
      rintro result after ⟨nothing, new, stamps, put, issues⟩
      refine ⟨stamps, ?_⟩
      rw [nothing, List.nil_append, sentBetween_of_append put]
      exact issues.mono fun account operator => .inr operator
  | false =>
      refine (ends_perform_user custodial).mono ?_
      rintro result after ⟨told, -, unasked, forth, read⟩
      rw [sentBetween_of_unasked unasked, List.append_nil]
      cases result with
      | error e => exact ⟨[], .nil forth⟩
      | ok outcome =>
          obtain ⟨operation, t, rfl, -, named, found⟩ := unsigned_of_handOut told.symm
          rw [handedOut, found (clock _), Option.toList_some]
          exact ⟨[⟨kit.account, journal.wire.readings⟩],
            .singleton named (.inl rfl) (Nat.le_refl _) (read _ rfl)⟩

/-- What calls in a row produce is identified in this way from end to end. -/
theorem issues_course (stamping : kit.client.Stamps outside sent)
    (clock : ∀ reading, (outside.clock reading).WithinSecond) (journal : Journal)
    (calls : List (Action × Option Bool)) :
    ∃ stamps, Issues outside kit.Pays journal.wire.readings
      (kit.course sent outside journal calls).2.wire.readings
      (kit.course sent outside journal calls).1 stamps := by
  induction calls generalizing journal with
  | nil => exact ⟨[], .nil (Nat.le_refl _)⟩
  | cons call calls inductionHypothesis =>
      obtain ⟨action, mode⟩ := call
      -- the later calls begin with the readings that the first one ends with
      obtain ⟨stamps, first⟩ :=
        @issues_perform outside sent kit action mode journal stamping clock
      obtain ⟨stamps', rest⟩ :=
        inductionHypothesis ((kit.perform action mode).run outside journal).2
      exact ⟨stamps ++ stamps', first.append rest⟩

/-- The transactions that calls on a kit in a row produce, handed out as bytes or sent, are
identified by who pays for them, the user or the client's operator, and by what the clock showed at
readings of which each was taken later than the one before.  So two of them have one identity
where the same account pays for both and the clock showed the same at both readings, and nowhere
else; none have, if the clock never shows the same twice in the course of the calls. -/
theorem ids_course (kit : Kit) (stamping : kit.client.Stamps outside sent)
    (clock : ∀ reading, (outside.clock reading).WithinSecond) (journal : Journal)
    (calls : List (Action × Option Bool)) :
    let produced := (kit.course sent outside journal calls).1
    let readings := (kit.course sent outside journal calls).2.wire.readings
    ∃ stamps : List Stamp,
      produced.map Transaction.id = stamps.map (fun stamp => some (stamp.id outside)) ∧
      (∀ stamp ∈ stamps, kit.Pays stamp.payer ∧
        journal.wire.readings ≤ stamp.reading ∧ stamp.reading < readings) ∧
      (stamps.Pairwise fun earlier later => earlier.reading < later.reading) ∧
      (∀ (i j : Nat) (earlier later : Stamp), stamps[i]? = some earlier → stamps[j]? = some later →
        ((produced[i]?.map Transaction.id = produced[j]?.map Transaction.id) ↔
          earlier.payer = later.payer ∧
            outside.clock earlier.reading = outside.clock later.reading)) ∧
      ((∀ m n, journal.wire.readings ≤ m → m < n → n < readings →
          outside.clock m ≠ outside.clock n) →
        (produced.map Transaction.id).Nodup) := by
  intro produced readings
  obtain ⟨stamps, issues⟩ := issues_course stamping clock journal calls
  refine ⟨stamps, issues.identified, ?_, issues.rising, ?_, ?_⟩
  · intro stamp among
    exact ⟨issues.paid stamp among, issues.between stamp among⟩
  · intro i j earlier later at_i at_j
    rw [issues.id_of_stamp at_i, issues.id_of_stamp at_j, Option.some_inj, Option.some_inj,
      Stamp.id_eq_id_iff]
  · intro ticking
    rw [issues.identified]
    apply List.pairwise_map.2
    refine issues.rising.imp_of_mem ?_
    intro earlier later among among' rises same
    have showed := (Stamp.id_eq_id_iff.1 (Option.some_inj.1 same)).2
    exact ticking _ _ (issues.between earlier among).1 rises (issues.between later among').2 showed

def twoTransfers : List (Action × Option Bool) :=
  [(.transferHbar ⟨0, 0, 5006⟩ ⟨250⟩, none), (.transferHbar ⟨0, 0, 5006⟩ ⟨251⟩, none)]

/-- A world whose clock goes on after the first reading. -/
def ticking : Outside where
  clock reading := ⟨1700000000, if reading = 0 then 1 else 2⟩
  http _ _ := .dropped

theorem ids_course_ticking :
    unoperated.client.Stamps ticking posted ∧
      ((unoperated.course posted ticking .empty twoTransfers).1.map Transaction.id).Nodup := by
  have clock : ∀ reading, (ticking.clock reading).WithinSecond := by
    intro reading
    simp only [ticking]
    split
    · decide
    · decide
  have stamping : unoperated.client.Stamps ticking posted := Relay.stamps _ clock
  obtain ⟨stamps, -, -, -, -, distinct⟩ :=
    ids_course unoperated stamping clock .empty twoTransfers
  refine ⟨stamping, distinct ?_⟩
  intro m n _ earlier last
  have two : n < 2 := last
  obtain ⟨rfl, rfl⟩ : m = 0 ∧ n = 1 := by omega
  decide

/-! ### A clock that stands still -/

/-- What is handed out for an instruction is found by whoever reads it. -/
theorem handedOut_handOut {i : Instruction} {now : Instant}
    (settled : action.instruction kit.user = .ok i) (nodes : kit.client.nodes ≠ [])
    (clock : now.WithinSecond) :
    handedOut (kit.handOut action now) = [i.unsigned kit.account kit.client.nodes now] := by
  rw [handOut, settled]
  dsimp only
  rw [if_neg nodes, handedOut, Transaction.ofEncoded?_encoded rfl rfl clock, Option.toList_some]

/-- While the clock stands still, calls in the user's name produce what is handed out as of its
one time. -/
theorem course_standing_user {now : Instant} (still : ∀ reading, outside.clock reading = now)
    {calls : List (Action × Option Bool)}
    (own : ∀ call ∈ calls, call.2.getD kit.custodial = false) :
    (kit.course sent outside journal calls).1 =
      calls.flatMap fun call => handedOut (kit.handOut call.1 now) := by
  induction calls generalizing journal with
  | nil => rfl
  | cons call calls inductionHypothesis =>
      obtain ⟨action, mode⟩ := call
      obtain ⟨here, later⟩ := List.forall_mem_cons.1 own
      obtain ⟨told, -, unasked, -⟩ :=
        @ends_perform_user kit action mode outside journal here
      rw [course_cons, sentBetween_of_unasked unasked, List.append_nil, told, still,
        inductionHypothesis later, List.flatMap_cons]

/-- Two transfers, of different amounts, get one identity while the clock stands still. -/
theorem course_standing :
    (∀ reading reading', cutOff.clock reading = cutOff.clock reading') ∧
      ∃ t t' : Transaction, (unoperated.course posted cutOff .empty twoTransfers).1 = [t, t'] ∧
        t ≠ t' ∧ t.id = t'.id := by
  have clock : Instant.WithinSecond ⟨1700000000, 5⟩ := withinSecond_cutOff 0
  have nodes : unoperated.client.nodes ≠ [] := List.cons_ne_nil _ _
  have produced : (unoperated.course posted cutOff .empty twoTransfers).1 = _ :=
    course_standing_user (fun _ => rfl) (by decide)
  rw [twoTransfers, List.flatMap_cons, List.flatMap_cons, List.flatMap_nil, List.append_nil,
    handedOut_handOut rfl nodes clock, handedOut_handOut rfl nodes clock] at produced
  refine ⟨fun _ _ => rfl, _, _, produced, ?_, rfl⟩
  intro same
  cases congrArg Transaction.body same

end Kit

end LedgerAgent
