/-
Module: LedgerAgent.Proofs.Client
Purpose: What ledger clients send and how it is identified: by who pays, and by the reading of
  the clock from which it is valid.
Main exports: Stamp, Issues, Sends, LedgerClient.Stamps, HttpRequest.transaction?, Relay.prepared,
  Relay.stamps
-/
import LedgerAgent.Proofs.Json.Canonical
import LedgerAgent.Proofs.Transaction.Freezing

namespace LedgerAgent

open Json (bind_eq_ok map_eq_ok mapError_eq_ok)

/-! ### Identities and readings of the clock -/

/-- What a new identity is made of: who pays, and which reading of the clock it starts from. -/
structure Stamp where
  payer : AccountId
  reading : Nat

/-- The identity that a stamp makes. -/
def Stamp.id (stamp : Stamp) (outside : Outside) : TransactionId :=
  .generate stamp.payer (outside.clock stamp.reading)

/-- Two stamps make one identity exactly if they have one payer and the clock showed them one
time. -/
theorem Stamp.id_eq_id_iff {stamp stamp' : Stamp} {outside : Outside} :
    stamp.id outside = stamp'.id outside ↔
      stamp.payer = stamp'.payer ∧
        outside.clock stamp.reading = outside.clock stamp'.reading := by
  rw [id, id, TransactionId.generate, TransactionId.generate, TransactionId.mk.injEq]

/-- Between two numbers of readings of the clock, transactions get the identities of stamps, each
with a later reading than the one before. -/
structure Issues (outside : Outside) (pays : AccountId → Prop) (before after : Nat)
    (ts : List Transaction) (stamps : List Stamp) : Prop where
  forth : before ≤ after
  identified : ts.map Transaction.id = stamps.map fun stamp => some (stamp.id outside)
  paid : ∀ stamp ∈ stamps, pays stamp.payer
  between : ∀ stamp ∈ stamps, before ≤ stamp.reading ∧ stamp.reading < after
  rising : stamps.Pairwise fun earlier later => earlier.reading < later.reading

namespace Issues

variable {outside : Outside} {pays : AccountId → Prop} {before now after : Nat}
  {ts ts' : List Transaction} {stamps stamps' : List Stamp}

theorem nil (forth : before ≤ after) : Issues outside pays before after [] [] :=
  ⟨forth, rfl, nofun, nofun, .nil⟩

theorem singleton {t : Transaction} {stamp : Stamp} (identified : t.id = some (stamp.id outside))
    (paid : pays stamp.payer) (lower : before ≤ stamp.reading) (upper : stamp.reading < after) :
    Issues outside pays before after [t] [stamp] where
  forth := Nat.le_trans lower (Nat.le_of_lt upper)
  identified := by rw [List.map_singleton, List.map_singleton, identified]
  paid := List.forall_mem_singleton.2 paid
  between := List.forall_mem_singleton.2 ⟨lower, upper⟩
  rising := List.pairwise_singleton _ _

/-- What is issued later comes behind, with later readings. -/
theorem append (first : Issues outside pays before now ts stamps)
    (second : Issues outside pays now after ts' stamps') :
    Issues outside pays before after (ts ++ ts') (stamps ++ stamps') where
  forth := Nat.le_trans first.forth second.forth
  identified := by rw [List.map_append, List.map_append, first.identified, second.identified]
  paid := List.forall_mem_append.2 ⟨first.paid, second.paid⟩
  between := by
    intro stamp among
    rcases List.mem_append.1 among with early | late
    · have ⟨lower, upper⟩ := first.between stamp early
      exact ⟨lower, Nat.lt_of_lt_of_le upper second.forth⟩
    · have ⟨lower, upper⟩ := second.between stamp late
      exact ⟨Nat.le_trans first.forth lower, upper⟩
  rising := by
    apply List.pairwise_append.2
    refine ⟨first.rising, second.rising, ?_⟩
    intro earlier among later among'
    exact Nat.lt_of_lt_of_le (first.between earlier among).2 (second.between later among').1

theorem mono {pays' : AccountId → Prop} (issues : Issues outside pays before after ts stamps)
    (weaker : ∀ account, pays account → pays' account) :
    Issues outside pays' before after ts stamps :=
  ⟨issues.forth, issues.identified, fun stamp among => weaker _ (issues.paid stamp among),
    issues.between, issues.rising⟩

/-- The transaction at a stamp's place has the stamp's identity. -/
theorem id_of_stamp (issues : Issues outside pays before after ts stamps) {i : Nat}
    {stamp : Stamp} (among : stamps[i]? = some stamp) :
    ts[i]?.map Transaction.id = some (some (stamp.id outside)) := by
  rw [← List.getElem?_map, issues.identified, List.getElem?_map, among, Option.map_some]

end Issues

/-! ### Sending -/

/-- On the way from one wire to another, transactions with identities of stamps are sent: `sent`
tells which transactions requests carry, of both the latest first. -/
def Sends (outside : Outside) (pays : AccountId → Prop)
    (sent : List HttpRequest → List Transaction) (before after : Wire) : Prop :=
  ∃ new stamps, sent after.requests = new ++ sent before.requests ∧
    Issues outside pays before.readings after.readings new.reverse stamps

namespace Sends

variable {outside : Outside} {pays : AccountId → Prop}
  {sent : List HttpRequest → List Transaction} {before now after : Wire}

/-- Nothing is sent where no request is made. -/
theorem of_unasked (unasked : after.requests = before.requests)
    (forth : before.readings ≤ after.readings) : Sends outside pays sent before after :=
  ⟨[], [], by rw [unasked, List.nil_append], .nil forth⟩

/-- What is sent up to a moment and from then on is sent between the ends. -/
theorem trans (first : Sends outside pays sent before now)
    (second : Sends outside pays sent now after) : Sends outside pays sent before after := by
  obtain ⟨new, stamps, put, issues⟩ := first
  obtain ⟨new', stamps', put', issues'⟩ := second
  refine ⟨new' ++ new, stamps ++ stamps', ?_, ?_⟩
  · rw [put', put, List.append_assoc]
  · rw [List.reverse_append]
    exact issues.append issues'

end Sends

/-- A client that does as it is documented: what it executes it freezes against itself, so that
a transaction which comes without an identity goes out with one of the client's operator as of
a reading of the clock; and asking for a receipt sends no transaction. -/
structure LedgerClient.Stamps (client : LedgerClient) (outside : Outside)
    (sent : List HttpRequest → List Transaction) : Prop where
  executing : ∀ {t : Transaction} {wire : Wire}, t.frozen = false → t.id = none →
    Ends outside (client.execute t) wire fun _ after =>
      Sends outside (client.operatorAccount = some ·) sent wire after
  asking : ∀ {response : Response} {wire : Wire},
    Ends outside (client.receipt response) wire fun _ after =>
      Sends outside (client.operatorAccount = some ·) sent wire after

/-! ### The relay -/

/-- The one request is made if the URL allows any, and the clock is not read. -/
theorem Exchange.ends_sent (outside : Outside) (wire : Wire) (method : HttpMethod) (url : Url)
    (body : Option String) :
    Ends outside (Exchange.send method url body) wire fun _ after =>
      after.readings = wire.readings ∧
        after.requests =
          if url.isRequestable then ⟨method, url.requested, body⟩ :: wire.requests
          else wire.requests := by
  rw [Exchange.send]
  cases url.isRequestable with
  | false => exact ⟨rfl, rfl⟩
  | true => exact ⟨rfl, rfl⟩

/-- A request is made once, and only for a URL that allows one; the clock is not read for it. -/
theorem Exchange.of_send {outside : Outside} {wire after : Wire} {method : HttpMethod} {url : Url}
    {body : Option String} {answer : HttpAnswer}
    (sending : Exchange.send method url body outside wire = (answer, after)) :
    after.readings = wire.readings ∧
      after.requests =
        if url.isRequestable then ⟨method, url.requested, body⟩ :: wire.requests
        else wire.requests := by
  have sent := Exchange.ends_sent outside wire method url body
  rwa [Ends, sending] at sent

/-- At most the one request is made, and the clock is not read. -/
theorem Exchange.ends_send_once (outside : Outside) (wire : Wire) (method : HttpMethod) (url : Url)
    (body : Option String) :
    Ends outside (Exchange.send method url body) wire fun _ after =>
      after.readings = wire.readings ∧
        (after.requests = wire.requests ∨
          after.requests = ⟨method, url.requested, body⟩ :: wire.requests) := by
  refine (Exchange.ends_sent outside wire method url body).mono ?_
  rintro answer after ⟨unread, put⟩
  refine ⟨unread, ?_⟩
  rw [put]
  split
  · exact .inr rfl
  · exact .inl rfl

/-- The transaction that a relay finds in what is posted to it. -/
def HttpRequest.transaction? (request : HttpRequest) : Option Transaction :=
  match request.method, request.body with
  | .post, some text =>
    match Json.parse text with
    | .error _ => none
    | .ok v =>
      match v.get? "transactionBytes" with
      | some (.string encoded) => Transaction.ofEncoded? encoded
      | _ => none
  | _, _ => none

/-- The transactions in what was posted. -/
def posted (requests : List HttpRequest) : List Transaction :=
  requests.filterMap HttpRequest.transaction?

theorem posted_get (url : Url) (body : Option String) (earlier : List HttpRequest) :
    posted (⟨.get, url, body⟩ :: earlier) = posted earlier :=
  List.filterMap_cons_none rfl

/-- What is posted in a relay's form is found again. -/
theorem transaction?_post (url : Url) {t : Transaction}
    (found : Transaction.ofEncoded? t.encoded = some t) :
    HttpRequest.transaction? ⟨.post, url,
      some (Json.object [("transactionBytes", .string t.encoded)]).render⟩ = some t := by
  have fits : Json.Fits Json.maxDepth (.object [("transactionBytes", .string t.encoded)]) := by
    simp [Json.Fits, Json.MembersFit, Json.maxDepth]
  simp only [HttpRequest.transaction?, Json.parse_render fits]
  exact found

/-- What is posted for execution is found in the requests again. -/
theorem posted_post (url : Url) {t : Transaction}
    (found : Transaction.ofEncoded? t.encoded = some t) (earlier : List HttpRequest) :
    posted (⟨.post, url,
        some (Json.object [("transactionBytes", .string t.encoded)]).render⟩ :: earlier) =
      t :: posted earlier :=
  List.filterMap_cons_some (transaction?_post url found)

namespace Relay

/-- What a relay's client sends for a transaction: it is frozen against the client as of an
instant, and signed by the operator. -/
def prepared (relay : Relay) (operator : Operator) (t : Transaction) (now : Instant) :
    Except TransactionError Transaction := do
  (t.freeze relay.source now).2
  (t.freeze relay.source now).1.sign operator.key

variable {relay : Relay} {operator : Operator} {t : Transaction} {outside : Outside}
  {wire : Wire}

/-- Preparing gives the bytes of the prepared transaction, asks nobody, and reads the clock where
an identity is missing. -/
theorem ends_prepare :
    Ends outside (relay.prepare operator t) wire fun result after =>
      result = (relay.prepared operator t (outside.clock wire.readings) >>=
        Transaction.toBytes).mapError ClientError.prepare ∧
        after.requests = wire.requests ∧
        after.readings = wire.readings + t.readingsToFreeze relay.source := by
  rw [prepare, ends_bind]
  refine (t.ends_freezeNow relay.source outside wire).mono ?_
  rintro ⟨t', frozen⟩ after ⟨course, unasked, read⟩
  rw [ends_pure]
  refine ⟨?_, unasked, read⟩
  rw [prepared, ← course]
  -- the signing becomes a variable, so that it is never computed
  generalize t'.sign operator.key = signed
  cases frozen with
  | error e => rfl
  | ok _ => rfl

/-- What is sent for an open transaction without an identity is frozen, valid from the instant
and paid for by the operator. -/
theorem settled_of_prepared {now : Instant} {sent : Transaction}
    (owned : relay.operator = some operator) (opened : t.frozen = false) (nameless : t.id = none)
    (clock : now.WithinSecond) (granted : relay.prepared operator t now = .ok sent) :
    sent.Settled ∧ sent.id = some (.generate operator.account now) := by
  obtain ⟨_, closed, signing⟩ := bind_eq_ok.1 granted
  have settled : (t.freeze relay.source now).1.Settled :=
    Transaction.settled_of_freeze opened (by simp [nameless]) clock closed
  have made : t.idFrom relay.source now = some (.generate operator.account now) := by
    rw [Transaction.idFrom_of_nameless nameless, source, owned]
    rfl
  rcases Transaction.freeze_cases opened relay.source now with
    ⟨nobody, -⟩ | ⟨id, found, ⟨-, refused⟩ | ⟨-, frozen⟩⟩
  · cases made.symm.trans nobody
  · rw [refused] at closed
    cases closed
  · cases made.symm.trans found
    rcases (t.freeze relay.source now).1.sign_cases operator.key with
      ⟨e, unsigned⟩ | ⟨message, signature, -, -, -, signed⟩
    · cases unsigned.symm.trans signing
    · cases signed.symm.trans signing
      refine ⟨settled.withSignatures _, ?_⟩
      rw [frozen]

/-- From one wire to the other a text was posted once to where a relay takes transactions, and
nothing else was asked.  A URL that allows no request takes none. -/
structure PostsOnce (relay : Relay) (outside : Outside) (wire after : Wire) (text : String) :
    Prop where
  posts : ∃ before answer, before.requests = wire.requests ∧
    (Exchange.send .post (relay.endpoint ["api", "v1", "transactions"]) (some text)).Gives outside
      before answer after
  requests : after.requests =
    if (relay.endpoint ["api", "v1", "transactions"]).isRequestable then
      ⟨.post, (relay.endpoint ["api", "v1", "transactions"]).requested, some text⟩ :: wire.requests
    else wire.requests

/-- What goes over the wire when a relay's client executes a transaction: nothing without an
operator or where freezing and signing fail, else one post of the bytes. -/
theorem ends_execute_course :
    Ends outside (relay.execute t) wire fun result after =>
      match relay.operator with
      | none => result = .error .missingOperator ∧ after = wire
      | some operator =>
        after.readings = wire.readings + t.readingsToFreeze relay.source ∧
          match relay.prepared operator t (outside.clock wire.readings) >>= Transaction.toBytes with
          | .error e => result = .error (.prepare e) ∧ after.requests = wire.requests
          | .ok bytes => relay.PostsOnce outside wire after
              (Json.object [("transactionBytes", .string (Text.Base64.encode bytes))]).render := by
  rw [execute]
  cases owned : relay.operator with
  | none => exact ⟨rfl, rfl⟩
  | some operator =>
      dsimp only
      rw [ends_bind]
      refine ends_prepare.mono ?_
      rintro result after ⟨rfl, unasked, read⟩
      cases course : relay.prepared operator t (outside.clock wire.readings) >>=
          Transaction.toBytes with
      | error e => exact ⟨read, rfl, unasked⟩
      | ok bytes =>
          change Ends outside (_ >>= _) after _
          rw [ends_bind, Exchange.ends_log, ends_bind]
          refine Ends.of_run fun answer final sending => ?_
          have ⟨unread, put⟩ := Exchange.of_send sending
          refine ⟨unread.trans read,
            ⟨after, answer, unasked, _, final, .tell (.refl _) _, sending, .refl _⟩, ?_⟩
          rw [unasked] at put
          exact put

/-- A relay's client makes one request for a transaction, or none; what it posts is the
transaction frozen against the client as of the next reading of the clock, and signed. -/
theorem ends_execute (opened : t.frozen = false) (nameless : t.id = none)
    (clock : ∀ reading, (outside.clock reading).WithinSecond) :
    Ends outside (relay.execute t) wire fun _ after =>
      wire.readings ≤ after.readings ∧
        (after.requests = wire.requests ∨
          ∃ operator sent, relay.operator = some operator ∧
            relay.prepared operator t (outside.clock wire.readings) = .ok sent ∧
            posted after.requests = sent :: posted wire.requests ∧
            after.readings = wire.readings + 1) := by
  refine ends_execute_course.mono ?_
  intro result after course
  cases owned : relay.operator with
  | none =>
      rw [owned] at course
      obtain ⟨-, rfl⟩ := course
      exact ⟨Nat.le_refl _, .inl rfl⟩
  | some operator =>
      rw [owned] at course
      obtain ⟨read, course⟩ := course
      refine ⟨Nat.le.intro read.symm, ?_⟩
      cases prepared : relay.prepared operator t (outside.clock wire.readings) >>=
          Transaction.toBytes with
      | error e =>
          rw [prepared] at course
          exact .inl course.2
      | ok bytes =>
          rw [prepared] at course
          obtain ⟨sent, granted, written⟩ := bind_eq_ok.1 prepared
          obtain ⟨settled, named⟩ := settled_of_prepared owned opened nameless (clock _) granted
          rw [Transaction.toBytes_of_frozen settled.frozen] at written
          cases written
          have put := course.requests
          split at put
          · refine .inr ⟨operator, sent, rfl, granted, ?_, ?_⟩
            · have found := Transaction.ofEncoded?_encoded settled.frozen named (clock _)
              exact (congrArg posted put).trans (posted_post _ found _)
            · simp [read, Transaction.readingsToFreeze, opened, nameless, source, owned]
          · exact .inl put

/-- Asking for a receipt posts nothing and reads no clock. -/
theorem ends_receipt (response : Response) :
    Ends outside (relay.receipt response) wire fun _ after =>
      after.readings = wire.readings ∧ posted after.requests = posted wire.requests := by
  rw [receipt, ends_bind]
  refine (Exchange.ends_send_once outside wire .get _ none).mono ?_
  rintro answer after ⟨unread, unsent | put⟩
  · exact ⟨unread, congrArg posted unsent⟩
  · exact ⟨unread, (congrArg posted put).trans (posted_get _ _ _)⟩

/-- A relay's client does as it is documented. -/
theorem stamps (relay : Relay) (clock : ∀ reading, (outside.clock reading).WithinSecond) :
    relay.client.Stamps outside posted where
  executing := by
    intro t wire opened nameless
    refine (ends_execute opened nameless clock).mono ?_
    rintro result after ⟨forth, unasked | ⟨operator, sent, owned, granted, put, read⟩⟩
    · exact .of_unasked unasked forth
    · obtain ⟨-, named⟩ := settled_of_prepared owned opened nameless (clock _) granted
      have payer : relay.client.operatorAccount = some operator.account := by
        rw [client, owned]
        rfl
      have later : wire.readings < after.readings := by
        rw [read]
        exact Nat.lt_succ_self _
      refine ⟨[sent], [⟨operator.account, wire.readings⟩], put, ?_⟩
      exact .singleton named payer (Nat.le_refl _) later
  asking := by
    intro response wire
    refine (ends_receipt response).mono ?_
    rintro result after ⟨unread, unsent⟩
    exact ⟨[], [], unsent, .nil (Nat.le_of_eq unread.symm)⟩

end Relay

end LedgerAgent
