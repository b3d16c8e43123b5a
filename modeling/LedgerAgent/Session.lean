/-
Module: LedgerAgent.Session
Purpose: The world around the library as a value: clock, HTTP, log, client calls.
Main exports: Outside, Wire, Exchange, ClientCall, Journal, Session, LogEvent, HttpRequest,
  HttpAnswer
-/
import LedgerAgent.Entity
import LedgerAgent.Transaction.Basic
import LedgerAgent.Url.Basic

namespace LedgerAgent

/-- How much an event matters. -/
inductive LogLevel where
  | debug
  | info
  | warn
  | error
deriving Repr, Inhabited, DecidableEq

def LogLevel.name : LogLevel → String
  | .debug => "DEBUG"
  | .info => "INFO"
  | .warn => "WARN"
  | .error => "ERROR"

/-- Something worth telling, with details as text. -/
structure LogEvent where
  level : LogLevel
  message : String
  fields : List (String × String)
deriving Repr, Inhabited, DecidableEq

inductive HttpMethod where
  | get
  | post
deriving Repr, Inhabited, DecidableEq

def HttpMethod.name : HttpMethod → String
  | .get => "GET"
  | .post => "POST"

/-- A request, its URL without fragment and user. -/
structure HttpRequest where
  method : HttpMethod
  url : Url
  body : Option String
deriving Repr, DecidableEq

/-- A reply, or none because the URL allows no request or the connection broke.  The
body of a reply is bytes, which need not be text. -/
inductive HttpAnswer where
  | unasked
  | dropped
  | reply (status : Nat) (body : List UInt8)
deriving Repr, Inhabited, DecidableEq

def isSuccessStatus (status : Nat) : Bool :=
  200 ≤ status && status < 300

/-- What the library cannot know in advance: the clock's readings, and the answers
to requests, which may depend on all requests made before (the latest first).  A
request is what the library hands to its transport, and the answer what the transport
hands back: where a server redirects, the transport follows by itself, and that is
part of `http`. -/
structure Outside where
  clock : Nat → Instant
  http : List HttpRequest → HttpRequest → HttpAnswer

/-- What went over the wire and into the log, the latest first. -/
structure Wire where
  readings : Nat
  requests : List HttpRequest
  events : List LogEvent

def Wire.empty : Wire := ⟨0, [], []⟩

/-- A course of requests, clock readings and log events. -/
abbrev Exchange := ReaderT Outside (StateM Wire)

namespace Exchange

def log (level : LogLevel) (message : String) (fields : List (String × String)) :
    Exchange Unit :=
  modify fun w => { w with events := ⟨level, message, fields⟩ :: w.events }

def now : Exchange Instant := do
  let outside ← read
  let w ← get
  set { w with readings := w.readings + 1 }
  return outside.clock w.readings

/-- Make one request, if the URL allows one, and take the answer, which comes from
behind any redirects. -/
def send (method : HttpMethod) (url : Url) (body : Option String) : Exchange HttpAnswer := do
  if !url.isRequestable then return .unasked
  let outside ← read
  let w ← get
  let request : HttpRequest := ⟨method, url.requested, body⟩
  set { w with requests := request :: w.requests }
  return outside.http w.requests request

end Exchange

/-- What is said about a URL that allows no request. -/
def unaskedMessage (url : Url) : String :=
  s!"builder error for url ({url.withoutUser.toText})"

/-- What is said about a request whose connection broke. -/
def droppedMessage (url : Url) : String :=
  s!"error sending request for url ({url.withoutUser.toText})"

/-- What is said about a reply that is not what it should be. -/
def undecodableMessage : String := "error decoding response body"

/-- What a ledger client is asked to do. -/
inductive ClientCall where
  | execute (t : Transaction)
  | receipt (response : Response)
deriving DecidableEq

/-- The transaction that a call hands over for execution. -/
def ClientCall.submitted? : ClientCall → Option Transaction
  | .execute t => some t
  | .receipt _ => none

/-- The wire, and what ledger clients were asked to do, the latest first.  Ledger
clients have no access to the second part. -/
structure Journal where
  wire : Wire
  calls : List ClientCall

def Journal.empty : Journal := ⟨.empty, []⟩

/-- Every transaction handed over for execution, the latest first. -/
def Journal.submissions (journal : Journal) : List Transaction :=
  journal.calls.filterMap ClientCall.submitted?

/-- A course of exchanges and calls of ledger clients. -/
abbrev Session := ReaderT Outside (StateM Journal)

/-- An exchange as part of a session. -/
def Exchange.inSession {α : Type} (x : Exchange α) : Session α := fun outside journal =>
  let (a, wire) := x outside journal.wire
  (a, { journal with wire := wire })

instance : MonadLift Exchange Session := ⟨Exchange.inSession⟩

/-- Note what a ledger client is asked to do. -/
def Session.note (call : ClientCall) : Session Unit :=
  fun _ journal => ((), { journal with calls := call :: journal.calls })

/-- Freeze a transaction.  The clock is read only for an identity that is filled
in, and success is told. -/
def Transaction.freezeNow (t : Transaction) (source : FreezeSource) :
    Exchange (Transaction × Except TransactionError Unit) := do
  if t.frozen then return (t, .ok ())
  let now ← if t.id.isNone && source.payer.isSome then Exchange.now else pure ⟨0, 0⟩
  let (t, result) := t.freeze source now
  match result with
  | .error _ => return (t, result)
  | .ok () =>
    let shown :=
      match t.id with
      | some id => "Some(\"" ++ id.toText ++ "\")"
      | none => "None"
    Exchange.log .debug "Transaction frozen"
      [("kind", t.body.kind.label), ("transaction_id", shown), ("nodes", toString t.nodes.length)]
    return (t, result)

end LedgerAgent
