/-
Module: LedgerAgent.Proofs.Session
Purpose: Following exchanges and sessions step by step: what a course of them gives and
  leaves, from the world's and the ledger clients' side.
Main exports: Ends, Journal.tell, Session.ends_log, Session.ends_submit_iff, Exchange.ends_now
-/
import LedgerAgent.Submission

namespace LedgerAgent

variable {α β ε σ : Type} {outside : Outside}

/-- From the state `s` on, the value that a course gives and the state that it leaves
have a property. -/
def Ends (outside : Outside) (x : ReaderT Outside (StateM σ) α) (s : σ) (Q : α → σ → Prop) :
    Prop :=
  Q (x outside s).1 (x outside s).2

/-! ### Rules of every course -/

/-- A course that does nothing ends where it starts. -/
theorem ends_pure {a : α} {s : σ} {Q : α → σ → Prop} :
    Ends outside (pure a) s Q ↔ Q a s :=
  Iff.rfl

/-- A course and what follows it end where the second ends that starts from the end of the first.
-/
theorem ends_bind {x : ReaderT Outside (StateM σ) α} {f : α → ReaderT Outside (StateM σ) β}
    {s : σ} {Q : β → σ → Prop} :
    Ends outside (x >>= f) s Q ↔ Ends outside x s fun a s' => Ends outside (f a) s' Q :=
  Iff.rfl

theorem ends_map {x : ReaderT Outside (StateM σ) α} {f : α → β} {s : σ} {Q : β → σ → Prop} :
    Ends outside (f <$> x) s Q ↔ Ends outside x s fun a s' => Q (f a) s' :=
  Iff.rfl

/-- What is weaker than where a course ends holds there as well. -/
theorem Ends.mono {x : ReaderT Outside (StateM σ) α} {s : σ} {P Q : α → σ → Prop}
    (h : Ends outside x s P) (weaker : ∀ a s', P a s' → Q a s') : Ends outside x s Q :=
  weaker _ _ h

/-- A course ends once, so that two things said of its end hold together. -/
theorem Ends.and {x : ReaderT Outside (StateM σ) α} {s : σ} {P Q : α → σ → Prop}
    (h : Ends outside x s P) (h' : Ends outside x s Q) :
    Ends outside x s fun a s' => P a s' ∧ Q a s' :=
  ⟨h, h'⟩

/-- A course that may fail goes on behind a success only. -/
theorem ends_run_bind {x : ExceptT ε (ReaderT Outside (StateM σ)) α}
    {f : α → ExceptT ε (ReaderT Outside (StateM σ)) β} {s : σ} {Q : Except ε β → σ → Prop} :
    Ends outside (x >>= f).run s Q ↔
      Ends outside x.run s fun
        | .ok a, s' => Ends outside (f a).run s' Q
        | .error e, s' => Q (.error e) s' := by
  rw [ExceptT.run_bind, ends_bind]
  refine iff_of_eq (congrArg (Ends outside x.run s) ?_)
  funext result s'
  cases result <;> rfl

/-- A course goes on from what its first part gives. -/
theorem Ends.run_bind {x : ExceptT ε (ReaderT Outside (StateM σ)) α}
    {f : α → ExceptT ε (ReaderT Outside (StateM σ)) β} {s : σ} {a : α} {P : σ → Prop}
    {Q : Except ε β → σ → Prop} (first : Ends outside x.run s fun given s' => given = .ok a ∧ P s')
    (onward : ∀ s', P s' → Ends outside (f a).run s' Q) : Ends outside (x >>= f).run s Q := by
  rw [ends_run_bind]
  refine first.mono ?_
  rintro _ s' ⟨rfl, left⟩
  exact onward s' left

/-- A course that fails in its first part ends there. -/
theorem Ends.run_bind_error {x : ExceptT ε (ReaderT Outside (StateM σ)) α}
    {f : α → ExceptT ε (ReaderT Outside (StateM σ)) β} {s : σ} {e : ε} {P : σ → Prop}
    {Q : Except ε β → σ → Prop}
    (first : Ends outside x.run s fun given s' => given = .error e ∧ P s')
    (failed : ∀ s', P s' → Q (.error e) s') : Ends outside (x >>= f).run s Q := by
  rw [ends_run_bind]
  refine first.mono ?_
  rintro _ s' ⟨rfl, left⟩
  exact failed s' left

/-- A course that gave something went through all that it is made of. -/
theorem run_bind_eq_ok {x : ExceptT ε (ReaderT Outside (StateM σ)) α}
    {f : α → ExceptT ε (ReaderT Outside (StateM σ)) β} {s : σ} {b : β}
    (given : ((x >>= f).run outside s).1 = .ok b) :
    ∃ a, (x.run outside s).1 = .ok a ∧ ((f a).run outside (x.run outside s).2).1 = .ok b := by
  have course : Ends outside (x >>= f).run s fun result _ => result = .ok b := given
  rw [ends_run_bind, Ends] at course
  cases first : (x.run outside s).1 with
  | error e =>
      rw [first] at course
      cases course
  | ok a =>
      rw [first] at course
      exact ⟨a, rfl, course⟩

theorem run_pure_eq_ok {a b : α} {s : σ}
    (given : ((pure a : ExceptT ε (ReaderT Outside (StateM σ)) α).run outside s).1 = .ok b) :
    a = b :=
  Except.ok.inj given

theorem ends_run_lift {x : ReaderT Outside (StateM σ) α} {s : σ}
    {Q : Except ε α → σ → Prop} :
    Ends outside (liftM x : ExceptT ε (ReaderT Outside (StateM σ)) α).run s Q ↔
      Ends outside x s fun a s' => Q (.ok a) s' :=
  Iff.rfl

/-! ### The journal -/

namespace Journal

/-- The journal after one more event. -/
def tell (journal : Journal) (event : LogEvent) : Journal :=
  { journal with wire := { journal.wire with events := event :: journal.wire.events } }

variable {journal : Journal} {event : LogEvent}

@[simp] theorem readings_tell : (journal.tell event).wire.readings = journal.wire.readings := rfl

/-- The journal after one more call of a ledger client, who may do anything to the wire. -/
def called (journal : Journal) (call : ClientCall) (wire : Wire) : Journal :=
  ⟨wire, call :: journal.calls⟩

end Journal

/-! ### Sessions -/

namespace Session

variable {journal : Journal}

/-- An exchange in a session changes nothing but the wire. -/
theorem ends_inSession {x : Exchange α} {Q : α → Journal → Prop} :
    Ends outside x.inSession journal Q ↔
      Ends outside x journal.wire fun a wire => Q a { journal with wire := wire } :=
  Iff.rfl

theorem ends_lift {x : Exchange α} {Q : α → Journal → Prop} :
    Ends outside (liftM x : Session α) journal Q ↔ Ends outside x.inSession journal Q :=
  Iff.rfl

theorem ends_log {level : LogLevel} {message : String} {fields : List (String × String)}
    {Q : Unit → Journal → Prop} :
    Ends outside (Exchange.log level message fields).inSession journal Q ↔
      Q () (journal.tell ⟨level, message, fields⟩) :=
  Iff.rfl

/-- Handing a transaction over puts it into the journal, and the client does the rest. -/
theorem ends_submit_iff {client : LedgerClient} {t : Transaction}
    {Q : Except ClientError Response → Journal → Prop} :
    Ends outside (client.submit t) journal Q ↔
      Ends outside (client.execute t) journal.wire fun answer wire =>
        Q answer (journal.called (.execute t) wire) :=
  Iff.rfl

theorem ends_fetchReceipt_iff {client : LedgerClient} {response : Response}
    {Q : Except ClientError Receipt → Journal → Prop} :
    Ends outside (client.fetchReceipt response) journal Q ↔
      Ends outside (client.receipt response) journal.wire fun answer wire =>
        Q answer (journal.called (.receipt response) wire) :=
  Iff.rfl

end Session

/-! ### Exchanges -/

namespace Exchange

variable {wire : Wire}

theorem ends_log {level : LogLevel} {message : String} {fields : List (String × String)}
    {Q : Unit → Wire → Prop} :
    Ends outside (log level message fields) wire Q ↔
      Q () { wire with events := ⟨level, message, fields⟩ :: wire.events } :=
  Iff.rfl

theorem ends_now {Q : Instant → Wire → Prop} :
    Ends outside now wire Q ↔
      Q (outside.clock wire.readings) { wire with readings := wire.readings + 1 } :=
  Iff.rfl

end Exchange

end LedgerAgent
