/-
Module: LedgerAgent.Proofs.Relay
Purpose: What a relay receives: whatever the transaction, one post of it, completed and signed by
  the operator over the very bytes that are read from the post.
Main exports: Transaction.Completes, Transaction.completes_freeze, Relay.execute_posts
-/
import LedgerAgent.Proofs.Client
import LedgerAgent.Proofs.Kit.Actor
import LedgerAgent.Proofs.Transaction.SignedBytes

namespace LedgerAgent

namespace Transaction

/-- The terms on which a transaction goes out: with its body and memo, and closed.  If it was
closed before, the rest is as it was; if not, what it left open is filled in for a payer as of an
instant. -/
structure Completes (t : Transaction) (payer : AccountId) (nodes : List AccountId) (now : Instant)
    (sent : Transaction) : Prop where
  frozen : sent.frozen = true
  body : sent.body = t.body
  memo : sent.memo = t.memo
  kept : t.frozen = true → sent.id = t.id ∧ sent.nodes = t.nodes ∧ sent.maxFee = t.maxFee
  filled : t.frozen = false →
    sent.id = some (t.id.getD (.generate payer now)) ∧
      sent.nodes = (if t.nodes = [] then nodes else t.nodes) ∧
      sent.maxFee = some (t.maxFee.getD defaultMaxFee)

/-- Signatures make no difference to what a transaction is completed to. -/
theorem Completes.withSignatures {t sent : Transaction} {payer : AccountId}
    {nodes : List AccountId} {now : Instant} (completes : t.Completes payer nodes now sent)
    (signatures : List SignaturePair) :
    t.Completes payer nodes now { sent with signatures := signatures } :=
  ⟨completes.frozen, completes.body, completes.memo, completes.kept, completes.filled⟩

/-- Where there are a payer and nodes, freezing completes any transaction. -/
theorem completes_freeze (t : Transaction) {source : FreezeSource} {payer : AccountId}
    (paid : source.payer = some payer) (nodes : source.nodes ≠ []) (now : Instant) :
    (t.freeze source now).2 = .ok () ∧
      t.Completes payer source.nodes now (t.freeze source now).1 := by
  cases frozen : t.frozen with
  | true =>
      rw [freeze_of_frozen frozen]
      refine ⟨rfl, frozen, rfl, rfl, fun _ => ⟨rfl, rfl, rfl⟩, fun opened => ?_⟩
      cases frozen.symm.trans opened
  | false =>
      have made : t.idFrom source now = some (t.id.getD (.generate payer now)) := by
        rw [idFrom, paid]
        cases t.id <;> rfl
      rcases freeze_cases frozen source now with
        ⟨nobody, -⟩ | ⟨id, found, ⟨nowhere, -⟩ | ⟨-, granted⟩⟩
      · cases made.symm.trans nobody
      · exact absurd nowhere (t.nodesFrom_ne_nil nodes)
      · cases made.symm.trans found
        rw [granted]
        refine ⟨rfl, rfl, rfl, rfl, fun closed => ?_, fun _ => ⟨rfl, ?_, rfl⟩⟩
        · cases frozen.symm.trans closed
        · simp only [nodesFrom, List.isEmpty_iff]

/-- Freezing settles a transaction that is open, or has an identity. -/
theorem settled_freeze {t : Transaction} {source : FreezeSource} {now : Instant}
    (identified : t.frozen = true → t.id ≠ none)
    (inRange : ∀ id ∈ t.id, id.validStart.WithinSecond) (clock : now.WithinSecond)
    (granted : (t.freeze source now).2 = .ok ()) : (t.freeze source now).1.Settled := by
  cases frozen : t.frozen with
  | true =>
      rw [freeze_of_frozen frozen]
      obtain ⟨id, known⟩ := Option.ne_none_iff_exists'.1 (identified frozen)
      exact ⟨frozen, id, known, inRange id known⟩
  | false => exact settled_of_freeze frozen inRange clock granted

/-- The transaction with a signature of a key in the place of all that the key made before. -/
def signedWith (t : Transaction) (key : PrivateKey) (signature : List UInt8) : Transaction :=
  { t with
    signatures := withoutKey key.publicKey t.signatures ++
      [⟨key.publicKey, Text.Hex.encode signature⟩] }

/-- A frozen transaction is signed as the key signs its bytes. -/
theorem sign_of_frozen {t : Transaction} {key : PrivateKey} {message : List UInt8}
    (frozen : t.frozen = true) (covered : t.bodyBytes = .ok message) :
    t.sign key =
      ((key.sign message).mapError fun e => .signing (.key e)).map (t.signedWith key) := by
  -- the scheme becomes a variable, so that no match on its result is ever computed
  obtain ⟨scheme, named⟩ : ∃ scheme, scheme = key.sign := ⟨_, rfl⟩
  unfold sign
  rw [← named, frozen, covered]
  cases made : scheme message with
  | error e => simp [made, Except.mapError, Except.map]
  | ok signature => simp [made, Except.mapError, Except.map, signedWith, frozen]

end Transaction

namespace Relay

/-- Whatever the transaction was before, a relay's client posts it once if there is an operator
whose key signs its bytes, and never otherwise.  What is read from the post is the transaction,
completed for the operator as of the next reading of the clock, with the signatures that it came
with but for the operator's own, and behind them a new one of the operator over the bytes of just
what is read. -/
theorem execute_posts (relay : Relay) (t : Transaction) (outside : Outside) (wire : Wire)
    (identified : t.frozen = true → t.id ≠ none)
    (inRange : ∀ id ∈ t.id, id.validStart.WithinSecond)
    (clock : ∀ reading, (outside.clock reading).WithinSecond) :
    Ends outside (relay.execute t) wire fun result after =>
      match relay.operator with
      | none => result = .error .missingOperator ∧ after = wire
      | some operator =>
        ∃ message,
          (t.freeze relay.source (outside.clock wire.readings)).1.bodyBytes = .ok message ∧
          match operator.key.sign message with
          | .error e =>
            result = .error (.prepare (.signing (.key e))) ∧ after.requests = wire.requests
          | .ok signature =>
            ∃ text sent, relay.PostsOnce outside wire after text ∧
              (∀ url, HttpRequest.transaction? ⟨.post, url, some text⟩ = some sent) ∧
              t.Completes operator.account relay.network.nodes (outside.clock wire.readings) sent ∧
              sent.bodyBytes = .ok message ∧
              sent.signatures = Transaction.withoutKey operator.key.publicKey t.signatures ++
                [⟨operator.key.publicKey, Text.Hex.encode signature⟩] := by
  refine ends_execute_course.mono fun result after course => ?_
  cases owned : relay.operator with
  | none =>
      rw [owned] at course
      exact course
  | some operator =>
      rw [owned] at course
      obtain ⟨-, course⟩ := course
      have paid : relay.source.payer = some operator.account := by
        rw [source, owned]
        rfl
      have nodes : relay.source.nodes ≠ [] := List.cons_ne_nil _ _
      obtain ⟨granted, completes⟩ :=
        t.completes_freeze paid nodes (outside.clock wire.readings)
      have settled := Transaction.settled_freeze identified inRange (clock _) granted
      obtain ⟨id, known, within⟩ := settled.inRange
      have covered := Transaction.bodyBytes_of_id known
      have preparing : relay.prepared operator t (outside.clock wire.readings) =
          (t.freeze relay.source (outside.clock wire.readings)).1.sign operator.key := by
        rw [prepared, granted]
        rfl
      rw [preparing, Transaction.sign_of_frozen settled.frozen covered] at course
      refine ⟨_, covered, ?_⟩
      generalize operator.key.sign _ = scheme at course ⊢
      cases scheme with
      | error e => exact course
      | ok signature =>
          let frozen := (t.freeze relay.source (outside.clock wire.readings)).1
          let sent := frozen.signedWith operator.key signature
          have written : ((Except.ok signature).mapError fun e =>
              TransactionError.signing (.key e)).map (frozen.signedWith operator.key) >>=
                Transaction.toBytes = .ok (Text.bytes sent.toJson.render) :=
            Transaction.toBytes_of_frozen settled.frozen
          rw [written] at course
          refine ⟨_, sent, course, fun url => transaction?_post url ?_, ?_, ?_, ?_⟩
          · exact Transaction.ofEncoded?_encoded settled.frozen known within
          · exact completes.withSignatures _
          · have same : Transaction.SameTerms frozen sent := ⟨rfl, rfl, rfl, rfl, rfl⟩
            exact same.bodyBytes.trans covered
          · change Transaction.withoutKey _ _ ++ _ = _
            rw [t.signatures_freeze]

/-- The operator whose key is the least. -/
def signer : Operator := ⟨⟨0, 0, 1001⟩, ⟨1, Nat.one_pos, Key.one_lt_groupOrder⟩⟩

/-- A relay that signs for this operator. -/
def signing : Relay where
  network := .testnet
  url := ⟨"https".toList, [], [], some (.domain "relay".toList), none, .segments [], none, none⟩
  operator := some signer

theorem execute_posts_signedTransfer :
    Ends Transaction.stillWorld (signing.execute Transaction.signedTransfer) .empty
      fun _ after =>
        ∃ message signature text sent,
          signer.key.sign message = .ok signature ∧
          after.requests = [⟨.post, signing.endpoint ["api", "v1", "transactions"], some text⟩] ∧
          after.requests.map HttpRequest.transaction? = [some sent] ∧
          sent.id = Transaction.signedTransfer.id ∧ sent.bodyBytes = .ok message ∧
          sent.signatures.map SignaturePair.signature = [Text.Hex.encode signature] := by
  have clock : ∀ reading, (Transaction.stillWorld.clock reading).WithinSecond := by
    intro reading
    change Instant.WithinSecond ⟨1700000000, 1⟩
    decide
  have within : ∀ id ∈ Transaction.signedTransfer.id, id.validStart.WithinSecond := by
    rintro id ⟨⟩
    decide
  have posts := execute_posts signing Transaction.signedTransfer Transaction.stillWorld .empty
    nofun within clock
  refine posts.mono fun result after course => ?_
  obtain ⟨message, covered, course⟩ := course
  have signed : (Transaction.signedTransfer.bodyBytes.toOption.bind fun m =>
      (signer.key.sign m).toOption).isSome = true := by
    decide +kernel
  rw [Transaction.freeze_of_frozen rfl] at covered
  rw [covered] at signed
  split at course
  · rename_i e refused
    rw [Except.toOption, Option.bind_some, refused] at signed
    cases signed
  · rename_i signature made
    obtain ⟨text, sent, once, found, completes, covers, signatures⟩ := course
    have put : after.requests =
        [⟨.post, signing.endpoint ["api", "v1", "transactions"], some text⟩] := once.requests
    refine ⟨message, signature, text, sent, made, put, ?_, ?_, covers, ?_⟩
    · rw [put, List.map_singleton, found]
    · exact (completes.kept rfl).1
    · rw [signatures]
      simp [Transaction.withoutKey, Transaction.signedTransfer, signer]

end Relay

end LedgerAgent
