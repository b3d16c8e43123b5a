/-
Module: LedgerAgent.Proofs.Transaction.Lifecycle
Purpose: What any course of calls makes of a transaction: once frozen it stays as it
  is but for its signatures, and these are always those of its present body.
Main exports: Transaction.Action, Transaction.act, Transaction.run, Transaction.freeze_cases,
  Transaction.effect_act, Transaction.Settled, Transaction.Guarded, Transaction.Signed
-/
import LedgerAgent.Proofs.Signature
import LedgerAgent.Proofs.Transaction.RoundTrip
import Mathlib.Data.List.Dedup

namespace LedgerAgent

open Text

/-- The text of the pair spells a signature of the message that the pair's key accepts. -/
def SignaturePair.Verifies (pair : SignaturePair) (message : List UInt8) : Prop :=
  ∃ signature, Hex.decode pair.signature = .ok signature ∧
    pair.publicKey.verify message signature = .ok ()

/-- Under the scheme's law the pair that a key makes verifies. -/
theorem PrivateKey.SignsSoundly.verifies {key : PrivateKey} {message signature : List UInt8}
    (sound : key.SignsSoundly message) (made : key.sign message = .ok signature) :
    SignaturePair.Verifies ⟨key.publicKey, Hex.encode signature⟩ message :=
  ⟨signature, Hex.decode_encode signature, sound signature made⟩

namespace Transaction

/-! ### Calls -/

/-- A call that may change a transaction. -/
inductive Action where
  | setId (id : TransactionId)
  | setNodes (nodes : List AccountId)
  | setMaxFee (fee : Tinybars)
  | setMemo (memo : String)
  | freeze (source : FreezeSource) (now : Instant)
  | sign (key : PrivateKey)

/-- The calls that only set a field. -/
def Action.isSetter : Action → Bool
  | .setId _ | .setNodes _ | .setMaxFee _ | .setMemo _ => true
  | .freeze _ _ | .sign _ => false

/-- The transaction that a call leaves behind, the old one if the call is refused, and
the answer of the call. -/
def answer (t : Transaction) :
    Except TransactionError Transaction → Transaction × Except TransactionError Unit
  | .ok t' => (t', .ok ())
  | .error e => (t, .error e)

/-- A call on a transaction. -/
def act (t : Transaction) : Action → Transaction × Except TransactionError Unit
  | .setId id => t.answer (t.setId id)
  | .setNodes nodes => t.answer (t.setNodes nodes)
  | .setMaxFee fee => t.answer (t.setMaxFee fee)
  | .setMemo memo => t.answer (t.setMemo memo)
  | .freeze source now => t.freeze source now
  | .sign key => t.answer (t.sign key)

/-- The transaction after calls in a row, whatever they answer. -/
def run (t : Transaction) : List Action → Transaction
  | [] => t
  | action :: rest => (t.act action).1.run rest

/-- The key that signs in a call, unless it is refused. -/
def signer? (t : Transaction) : Action → Option PrivateKey
  | .sign key => (t.sign key).toOption.map fun _ => key
  | _ => none

/-- The keys that sign in a run, in order. -/
def signers (t : Transaction) : List Action → List PrivateKey
  | [] => []
  | action :: rest => (t.signer? action).toList ++ (t.act action).1.signers rest

/-- Nothing is edited in a frozen transaction. -/
theorem edit_of_frozen {t : Transaction} (frozen : t.frozen = true)
    (change : Transaction → Transaction) : t.edit change = .error .frozen := by
  rw [edit, if_pos frozen]

theorem edit_of_open {t : Transaction} (opened : t.frozen = false)
    (change : Transaction → Transaction) : t.edit change = .ok (change t) := by
  simp [edit, opened]

/-- A frozen transaction refuses every setter and is left as it was. -/
theorem act_setter_of_frozen {t : Transaction} {action : Action} (frozen : t.frozen = true)
    (setter : action.isSetter = true) : t.act action = (t, .error .frozen) := by
  cases action with
  | setId id => simp [act, setId, edit_of_frozen frozen, answer]
  | setNodes nodes => simp [act, setNodes, edit_of_frozen frozen, answer]
  | setMaxFee fee => simp [act, setMaxFee, edit_of_frozen frozen, answer]
  | setMemo memo => simp [act, setMemo, edit_of_frozen frozen, answer]
  | freeze source now => cases setter
  | sign key => cases setter

/-- Freezing a frozen transaction is granted and changes nothing. -/
theorem freeze_of_frozen {t : Transaction} (frozen : t.frozen = true) (source : FreezeSource)
    (now : Instant) : t.freeze source now = (t, .ok ()) := by
  rw [freeze, if_pos frozen]

/-- The identity that freezing settles on: the transaction's own, or a new one of the
source's payer. -/
def idFrom (t : Transaction) (source : FreezeSource) (now : Instant) : Option TransactionId :=
  t.id.or (source.payer.map fun payer => .generate payer now)

/-- The nodes that freezing settles on: the transaction's own, or the source's if it has
none. -/
def nodesFrom (t : Transaction) (source : FreezeSource) : List AccountId :=
  if t.nodes.isEmpty then source.nodes else t.nodes

/-- Freezing an open transaction fails for want of an identity or of nodes, or closes it. -/
theorem freeze_cases {t : Transaction} (opened : t.frozen = false) (source : FreezeSource)
    (now : Instant) :
    (t.idFrom source now = none ∧ t.freeze source now = (t, .error (.freeze .noPayer))) ∨
      ∃ id, t.idFrom source now = some id ∧
        ((t.nodesFrom source = [] ∧
            t.freeze source now =
              ({ t with id := some id, nodes := [] }, .error (.freeze .noNodes))) ∨
          (t.nodesFrom source ≠ [] ∧
            t.freeze source now =
              ({ t with
                  id := some id
                  nodes := t.nodesFrom source
                  maxFee := some (t.maxFee.getD defaultMaxFee)
                  frozen := true }, .ok ()))) := by
  have thawed : ¬ t.frozen = true := by simp [opened]
  cases found : t.idFrom source now with
  | none =>
      refine .inl ⟨rfl, ?_⟩
      rw [idFrom] at found
      rw [freeze, if_neg thawed, found]
  | some id =>
      refine .inr ⟨id, rfl, ?_⟩
      rw [idFrom] at found
      rw [freeze, if_neg thawed, found]
      by_cases named : t.nodesFrom source = []
      · refine .inl ⟨named, ?_⟩
        rw [nodesFrom] at named
        simp only [named]
        rfl
      · refine .inr ⟨named, ?_⟩
        exact if_neg (mt List.isEmpty_iff.1 named)

/-- Freezing never touches the signatures. -/
theorem signatures_freeze (t : Transaction) (source : FreezeSource) (now : Instant) :
    (t.freeze source now).1.signatures = t.signatures := by
  cases frozen : t.frozen with
  | true => rw [freeze_of_frozen frozen]
  | false =>
      rcases freeze_cases frozen source now with
        ⟨_, failed⟩ | ⟨_, _, ⟨_, failed⟩ | ⟨_, granted⟩⟩
      · rw [failed]
      · rw [failed]
      · rw [granted]

/-! ### What a call can do -/

/-- The effects of a call, with the key that signs in it: none at all, a change to an
open transaction that leaves its signatures alone, or one more signature on a frozen
one. -/
inductive Effect (t : Transaction) : Action → Transaction → Option PrivateKey → Prop where
  | kept (action : Action) : Effect t action t none
  | edited {action : Action} {t' : Transaction} (opened : t.frozen = false)
      (same : t'.signatures = t.signatures) : Effect t action t' none
  | signed {key : PrivateKey} {message signature : List UInt8} (frozen : t.frozen = true)
      (covered : t.bodyBytes = .ok message) (made : key.sign message = .ok signature) :
      Effect t (.sign key)
        { t with
          signatures := withoutKey key.publicKey t.signatures ++
            [⟨key.publicKey, Hex.encode signature⟩] }
        (some key)

theorem effect_edit (t : Transaction) (action : Action) (change : Transaction → Transaction)
    (same : (change t).signatures = t.signatures) :
    Effect t action (t.answer (t.edit change)).1 none := by
  cases frozen : t.frozen with
  | false =>
      rw [edit_of_open frozen]
      exact .edited frozen same
  | true =>
      rw [edit_of_frozen frozen]
      exact .kept action

theorem effect_freeze (t : Transaction) (source : FreezeSource) (now : Instant) :
    Effect t (.freeze source now) (t.freeze source now).1 none := by
  cases frozen : t.frozen with
  | false => exact .edited frozen (t.signatures_freeze source now)
  | true =>
      rw [freeze_of_frozen frozen]
      exact .kept _

/-- Signing is refused, or the transaction is frozen, the key can sign its body, and the
signature takes the place of the key's earlier one. -/
theorem sign_cases (t : Transaction) (key : PrivateKey) :
    (∃ e, t.sign key = .error e) ∨
      ∃ message signature, t.frozen = true ∧ t.bodyBytes = .ok message ∧
        key.sign message = .ok signature ∧
        t.sign key = .ok { t with
          signatures := withoutKey key.publicKey t.signatures ++
            [⟨key.publicKey, Hex.encode signature⟩] } := by
  -- The scheme becomes a variable, so that no match on its result is ever computed.
  obtain ⟨scheme, named⟩ : ∃ scheme, scheme = key.sign := ⟨_, rfl⟩
  unfold sign
  rw [← named]
  cases frozen : t.frozen with
  | false => exact .inl ⟨_, rfl⟩
  | true =>
      cases covered : t.bodyBytes with
      | error e => exact .inl ⟨e, rfl⟩
      | ok message =>
          cases made : scheme message with
          | error e => exact .inl ⟨.signing (.key e), by simp [made]⟩
          | ok signature =>
              refine .inr ⟨message, signature, rfl, rfl, made, ?_⟩
              simp [made]

/-- A key that can sign the body of a frozen transaction is not refused. -/
theorem sign_of_made {t : Transaction} {key : PrivateKey} {message signature : List UInt8}
    (frozen : t.frozen = true) (covered : t.bodyBytes = .ok message)
    (made : key.sign message = .ok signature) :
    t.sign key = .ok { t with
      signatures := withoutKey key.publicKey t.signatures ++
        [⟨key.publicKey, Hex.encode signature⟩] } := by
  obtain ⟨scheme, named⟩ : ∃ scheme, scheme = key.sign := ⟨_, rfl⟩
  rw [← named] at made
  unfold sign
  rw [← named]
  simp [frozen, covered, made]

theorem effect_sign (t : Transaction) (key : PrivateKey) :
    Effect t (.sign key) (t.answer (t.sign key)).1 (t.signer? (.sign key)) := by
  rcases t.sign_cases key with ⟨e, refused⟩ | ⟨message, signature, frozen, covered, made, granted⟩
  · rw [signer?, refused]
    exact .kept _
  · rw [signer?, granted]
    exact .signed frozen covered made

/-- Every call has one of the effects. -/
theorem effect_act (t : Transaction) (action : Action) :
    Effect t action (t.act action).1 (t.signer? action) := by
  cases action with
  | setId id => exact effect_edit t _ _ rfl
  | setNodes nodes => exact effect_edit t _ _ rfl
  | setMaxFee fee => exact effect_edit t _ _ rfl
  | setMemo memo => exact effect_edit t _ _ rfl
  | freeze source now => exact effect_freeze t source now
  | sign key => exact effect_sign t key

/-- A call changes nothing of a frozen transaction but its signatures. -/
theorem act_of_frozen {t : Transaction} (frozen : t.frozen = true) (action : Action) :
    ∃ signatures, (t.act action).1 = { t with signatures := signatures } := by
  have effect := effect_act t action
  generalize (t.act action).1 = after, t.signer? action = signer at effect ⊢
  cases effect with
  | kept => exact ⟨t.signatures, rfl⟩
  | edited opened same => exact absurd frozen (by simp [opened])
  | signed frozen covered made => exact ⟨_, rfl⟩

/-! ### Frozen transactions -/

/-- A frozen transaction whose identity the text of it gives back. -/
structure Settled (t : Transaction) : Prop where
  frozen : t.frozen = true
  inRange : ∃ id, t.id = some id ∧ id.validStart.WithinSecond

/-- A call on a transaction, or writing it to bytes and reading it from them again. -/
inductive Handling where
  | call (action : Action)
  | reparse

/-- What a handling makes of a transaction, and its answer. -/
def handle (t : Transaction) : Handling → Transaction × Except TransactionError Unit
  | .call action => t.act action
  | .reparse => t.answer (t.toBytes >>= ofBytes)

/-- The transaction after handlings in a row, whatever they answer. -/
def course (t : Transaction) : List Handling → Transaction
  | [] => t
  | handling :: rest => (t.handle handling).1.course rest

/-- What bytes hold is settled. -/
theorem settled_of_ofBytes {bs : List UInt8} {t : Transaction} (h : ofBytes bs = .ok t) :
    t.Settled := by
  unfold ofBytes at h
  split at h
  · cases h
  · rename_i decoded
    split at h
    · cases h
    · rename_i present
      obtain ⟨id, known⟩ := Option.ne_none_iff_exists'.1 (mt Option.isNone_iff_eq_none.2 present)
      cases h
      exact ⟨rfl, id, known, (yields_decode.of_decode decoded).2 id known⟩

/-- A transaction that freezing closes is settled if its identity, or the clock that one
is made from, is in range. -/
theorem settled_of_freeze {t : Transaction} {source : FreezeSource} {now : Instant}
    (opened : t.frozen = false) (inRange : ∀ id ∈ t.id, id.validStart.WithinSecond)
    (clock : now.WithinSecond) (granted : (t.freeze source now).2 = .ok ()) :
    (t.freeze source now).1.Settled := by
  rcases freeze_cases opened source now with
    ⟨_, failed⟩ | ⟨id, found, ⟨_, failed⟩ | ⟨_, closed⟩⟩
  · simp [failed] at granted
  · simp [failed] at granted
  · rw [closed]
    refine ⟨rfl, id, rfl, ?_⟩
    cases known : t.id with
    | some id' =>
        obtain rfl : id' = id := by simpa [idFrom, known] using found
        exact inRange id' known
    | none =>
        obtain ⟨payer, _, rfl⟩ : ∃ payer, source.payer = some payer ∧
            TransactionId.generate payer now = id := by
          simpa [idFrom, known] using found
        exact clock

theorem Settled.withSignatures {t : Transaction} (h : t.Settled)
    (signatures : List SignaturePair) : Settled { t with signatures := signatures } :=
  ⟨h.frozen, h.inRange⟩

/-- A settled transaction is read from its own bytes again. -/
theorem handle_reparse_of_settled {t : Transaction} (h : t.Settled) :
    t.handle .reparse = (t, .ok ()) := by
  obtain ⟨id, known, inRange⟩ := h.inRange
  have again : (t.toBytes >>= ofBytes) = .ok t := by
    rw [toBytes_of_frozen h.frozen]
    change ofBytes _ = _
    rw [ofBytes_render known inRange]
    exact congrArg Except.ok (congrArg (fun b => { t with frozen := b }) h.frozen.symm)
  rw [handle, again, answer]

/-- A handling changes nothing of a settled transaction but its signatures. -/
theorem handle_of_settled {t : Transaction} (h : t.Settled) (handling : Handling) :
    ∃ signatures, (t.handle handling).1 = { t with signatures := signatures } := by
  cases handling with
  | reparse => exact ⟨t.signatures, by rw [handle_reparse_of_settled h]⟩
  | call action => exact act_of_frozen h.frozen action

/-- A course of handlings changes nothing of a settled transaction but its signatures. -/
theorem course_of_settled {t : Transaction} (h : t.Settled) (handlings : List Handling) :
    ∃ signatures, t.course handlings = { t with signatures := signatures } := by
  induction handlings generalizing t with
  | nil => exact ⟨t.signatures, rfl⟩
  | cons handling rest inductionHypothesis =>
      obtain ⟨first, afterFirst⟩ := handle_of_settled h handling
      obtain ⟨last, afterRest⟩ := inductionHypothesis (h.withSignatures first)
      exact ⟨last, by rw [course, afterFirst, afterRest]⟩

/-- A frozen transaction never changes what was signed: after any handlings it says what
it said before, it still refuses every setter as a whole, and freezing it or reading it
from its own bytes again is granted and changes nothing. -/
theorem terms_course {t : Transaction} (h : t.Settled) (handlings : List Handling) :
    let t' := t.course handlings
    (t'.id = t.id ∧ t'.nodes = t.nodes ∧ t'.maxFee = t.maxFee ∧ t'.memo = t.memo ∧
      t'.body = t.body ∧ t'.bodyBytes = t.bodyBytes) ∧
    (∀ action, action.isSetter = true → t'.act action = (t', .error .frozen)) ∧
    (∀ source now, t'.act (.freeze source now) = (t', .ok ())) ∧
    t'.handle .reparse = (t', .ok ()) := by
  intro t'
  obtain ⟨signatures, after⟩ : ∃ signatures, t' = { t with signatures := signatures } :=
    course_of_settled h handlings
  have settled : t'.Settled := after ▸ h.withSignatures signatures
  refine ⟨?_, ?_, ?_, ?_⟩
  · rw [after]
    exact ⟨rfl, rfl, rfl, rfl, rfl, rfl⟩
  · intro action setter
    exact act_setter_of_frozen settled.frozen setter
  · intro source now
    exact freeze_of_frozen settled.frozen source now
  · exact handle_reparse_of_settled settled

theorem terms_course_signedTransfer :
    let t' := signedTransfer.course
      [.call (.setMemo "other"), .reparse, .call (.sign ⟨1, by decide, by decide⟩),
        .call (.freeze ⟨none, []⟩ ⟨0, 0⟩), .reparse]
    signedTransfer.Settled ∧ t'.memo = signedTransfer.memo ∧
      t'.bodyBytes = signedTransfer.bodyBytes ∧
      t'.act (.setMemo "other") = (t', .error .frozen) := by
  have settled : signedTransfer.Settled := ⟨rfl, _, rfl, by decide⟩
  obtain ⟨⟨_, _, _, memo, _, covered⟩, refused, _, _⟩ := terms_course settled
    [.call (.setMemo "other"), .reparse, .call (.sign ⟨1, by decide, by decide⟩),
      .call (.freeze ⟨none, []⟩ ⟨0, 0⟩), .reparse]
  exact ⟨settled, memo, covered, refused _ rfl⟩

/-! ### Signatures -/

/-- The transaction has signatures only once it is frozen. -/
def Guarded (t : Transaction) : Prop :=
  t.signatures ≠ [] → t.frozen = true

/-- No call makes a signed transaction that is open. -/
theorem Guarded.act {t : Transaction} (h : t.Guarded) (action : Action) :
    (t.act action).1.Guarded := by
  have effect := effect_act t action
  generalize (t.act action).1 = after, t.signer? action = signer at effect ⊢
  cases effect with
  | kept => exact h
  | edited opened same =>
      intro signed
      rw [same] at signed
      exact absurd (h signed) (by simp [opened])
  | signed frozen covered made => exact fun _ => frozen

theorem Guarded.run {t : Transaction} (h : t.Guarded) (actions : List Action) :
    (t.run actions).Guarded := by
  induction actions generalizing t with
  | nil => exact h
  | cons action rest inductionHypothesis => exact inductionHypothesis (h.act action)

theorem run_append (t : Transaction) (first second : List Action) :
    t.run (first ++ second) = (t.run first).run second := by
  induction first generalizing t with
  | nil => rfl
  | cons action rest inductionHypothesis => exact inductionHypothesis _

/-- The signers of a run are those of its first part and then those of its second. -/
theorem signers_append (t : Transaction) (first second : List Action) :
    t.signers (first ++ second) = t.signers first ++ (t.run first).signers second := by
  induction first generalizing t with
  | nil => rfl
  | cons action rest inductionHypothesis =>
      rw [List.cons_append, signers, inductionHypothesis, ← List.append_assoc]
      rfl

/-- A run changes nothing of a frozen transaction but its signatures. -/
theorem run_of_frozen {t : Transaction} (frozen : t.frozen = true) (actions : List Action) :
    ∃ signatures, t.run actions = { t with signatures := signatures } := by
  induction actions generalizing t with
  | nil => exact ⟨t.signatures, rfl⟩
  | cons action rest inductionHypothesis =>
      obtain ⟨first, afterFirst⟩ := act_of_frozen frozen action
      obtain ⟨last, afterRest⟩ := @inductionHypothesis { t with signatures := first } frozen
      exact ⟨last, by rw [run, afterFirst, afterRest]⟩

/-- Keys that can sign the body of a frozen transaction all sign it, one after the other. -/
theorem signers_signing {t : Transaction} {message : List UInt8} {keys : List PrivateKey}
    (frozen : t.frozen = true) (covered : t.bodyBytes = .ok message)
    (able : ∀ key ∈ keys, ∃ signature, key.sign message = .ok signature) :
    t.signers (keys.map .sign) = keys := by
  induction keys generalizing t with
  | nil => rfl
  | cons key rest inductionHypothesis =>
      obtain ⟨⟨signature, made⟩, able⟩ := List.forall_mem_cons.1 able
      have granted := sign_of_made frozen covered made
      rw [List.map_cons, signers, signer?, act, granted, answer,
        inductionHypothesis (by exact frozen) (by exact covered) able]
      rfl

/-- The pair is what a key makes of the body of a transaction. -/
def MadeBy (t : Transaction) (key : PrivateKey) (pair : SignaturePair) : Prop :=
  ∃ message signature, t.bodyBytes = .ok message ∧ key.sign message = .ok signature ∧
    pair = ⟨key.publicKey, Hex.encode signature⟩

/-- A transaction whose signatures are those of keys that signed it one after the other:
one of each, ordered by the last time, and every one made of the present body. -/
structure Signed (keys : List PrivateKey) (t : Transaction) : Prop where
  guarded : t.Guarded
  signers : t.signatures.map SignaturePair.publicKey = (keys.map PrivateKey.publicKey).dedup
  made : ∀ pair ∈ t.signatures, ∃ key ∈ keys, t.MadeBy key pair

/-- An item that comes again at the end leaves its earlier place. -/
theorem dedup_concat {α : Type} [DecidableEq α] (as : List α) (a : α) :
    (as ++ [a]).dedup = as.dedup.filter (· ≠ a) ++ [a] := by
  induction as with
  | nil => rfl
  | cons b as inductionHypothesis =>
      by_cases same : b = a
      · subst same
        rw [List.cons_append, List.dedup_cons_of_mem (by simp), inductionHypothesis,
          List.dedup_cons]
        split <;> simp
      · by_cases again : b ∈ as
        · rw [List.cons_append, List.dedup_cons_of_mem (by simp [again]), inductionHypothesis,
            List.dedup_cons_of_mem again]
        · rw [List.cons_append, List.dedup_cons_of_notMem (by simp [again, same]),
            inductionHypothesis, List.dedup_cons_of_notMem again]
          simp [same]

theorem map_withoutKey (key : PublicKey) (pairs : List SignaturePair) :
    (withoutKey key pairs).map SignaturePair.publicKey =
      (pairs.map SignaturePair.publicKey).filter (· ≠ key) := by
  rw [withoutKey, List.filter_map]
  rfl

/-- A call on a signed transaction adds the key that signs in it, if there is one. -/
theorem Signed.act {keys : List PrivateKey} {t : Transaction} (h : Signed keys t)
    (action : Action) :
    Signed (keys ++ (t.signer? action).toList) (t.act action).1 := by
  have effect := effect_act t action
  have guarded := h.guarded.act action
  generalize (t.act action).1 = after, t.signer? action = signer at effect guarded ⊢
  cases effect with
  | kept => simpa using h
  | edited opened same =>
      -- An open transaction has no signatures that a change to it could outdate.
      have unsigned : t.signatures = [] := by
        by_contra signed
        simp [h.guarded signed] at opened
      have signers := h.signers
      rw [unsigned] at same signers
      refine ⟨guarded, ?_, ?_⟩
      · simpa [same] using signers
      · simp [same]
  | @signed key message signature frozen covered made =>
      refine ⟨guarded, ?_, ?_⟩
      · rw [Option.toList_some, List.map_append, List.map_append, map_withoutKey, h.signers]
        exact (dedup_concat _ _).symm
      · intro pair member
        rcases List.mem_append.1 member with old | new
        · obtain ⟨other, signedBefore, madeBy⟩ := h.made pair (List.mem_filter.1 old).1
          exact ⟨other, List.mem_append_left _ signedBefore, madeBy⟩
        · cases List.mem_singleton.1 new
          exact ⟨key, by simp, message, signature, covered, made, rfl⟩

/-- A run adds the keys that sign in it, in their order. -/
theorem Signed.run {keys : List PrivateKey} {t : Transaction} (h : Signed keys t)
    (actions : List Action) : Signed (keys ++ t.signers actions) (t.run actions) := by
  induction actions generalizing keys t with
  | nil => simpa [Transaction.signers, Transaction.run] using h
  | cons action rest inductionHypothesis =>
      have after := inductionHypothesis (h.act action)
      rwa [List.append_assoc] at after

/-- A new transaction is signed by nobody. -/
theorem signed_ofBody (body : Body) : Signed [] (ofBody body) :=
  ⟨nofun, rfl, nofun⟩

/-- Under the scheme's law every signature verifies. -/
theorem Signed.verifies {keys : List PrivateKey} {t : Transaction} (h : Signed keys t)
    {message : List UInt8} (covered : t.bodyBytes = .ok message)
    (law : ∀ key ∈ keys, key.SignsSoundly message) :
    ∀ pair ∈ t.signatures, pair.Verifies message := by
  intro pair member
  obtain ⟨key, signer, message', signature, covered', made, rfl⟩ := h.made pair member
  obtain rfl := Except.ok.inj (covered.symm.trans covered')
  exact (law key signer).verifies made

/-- However a new transaction is edited, frozen and signed, it has signatures only once it
is frozen; its signers are the keys that signed it, each once and ordered by the last
time; and each signature is its key's own over the present body, so it verifies if the
key accepts what it signs itself, and all of them do under the scheme's law. -/
theorem signatures_run (body : Body) (actions : List Action) :
    let t := (ofBody body).run actions
    let keys := (ofBody body).signers actions
    (t.signatures ≠ [] → t.frozen = true) ∧
    (t.signatures.map SignaturePair.publicKey).Nodup ∧
    t.signatures.map SignaturePair.publicKey = (keys.map PrivateKey.publicKey).dedup ∧
    (∀ pair ∈ t.signatures, ∃ key ∈ keys, ∃ message signature,
      t.bodyBytes = .ok message ∧ key.sign message = .ok signature ∧
      pair = ⟨key.publicKey, Hex.encode signature⟩ ∧
      (key.publicKey.verify message signature = .ok () → pair.Verifies message)) ∧
    ∀ message, t.bodyBytes = .ok message → (∀ key ∈ keys, key.SignsSoundly message) →
      ∀ pair ∈ t.signatures, pair.Verifies message := by
  intro t keys
  have signed : Signed keys t := (signed_ofBody body).run actions
  refine ⟨signed.guarded, ?_, signed.signers, ?_, fun _ => signed.verifies⟩
  · rw [signed.signers]
    exact List.nodup_dedup _
  · intro pair member
    obtain ⟨key, signer, message, signature, covered, made, rfl⟩ := signed.made pair member
    refine ⟨key, signer, message, signature, covered, made, rfl, ?_⟩
    intro accepted
    exact ⟨signature, Hex.decode_encode signature, accepted⟩

/-- A topic's deletion, ready to be signed. -/
def readyDeletion : Transaction :=
  ⟨some ⟨⟨0, 0, 1001⟩, ⟨1700000000, 5⟩⟩, [⟨0, 0, 3⟩], some defaultMaxFee, none,
    .topicDelete ⟨0, 0, 77⟩, [], true⟩

/-- The text of it that is signed. -/
def deletionText : String :=
  "\x7b\"transactionId\":\"0.0.1001@1700000000.000000005\",\"nodeAccountIds\":[\"0.0.3\"]," ++
    "\"maxTransactionFee\":200000000,\"body\":\x7b\"type\":\"topicDelete\"," ++
    "\"topicId\":\"0.0.77\"\x7d\x7d"

/-- The hash of that text. -/
def deletionHash : List UInt8 :=
  [0xf1, 0x95, 0x44, 0x8a, 0xdb, 0xd1, 0x4e, 0xcd, 0xf5, 0x0e, 0xbe, 0xf8, 0xa3, 0x9c, 0xd8, 0x7d,
    0xdb, 0x65, 0x70, 0x6c, 0x31, 0x8a, 0xef, 0xe5, 0xd9, 0xfa, 0x68, 0x75, 0x40, 0x14, 0x9a, 0x03]

theorem sha256_deletionText : Key.sha256 (bytes deletionText) = deletionHash := by
  -- The words are a step of their own, because the rounds would compute them again and again.
  have words : Key.wordsOfBytes (Key.padMessage (bytes deletionText)) =
      [0x7b227472, 0x616e7361, 0x6374696f, 0x6e496422, 0x3a22302e, 0x302e3130, 0x30314031,
        0x37303030, 0x30303030, 0x302e3030, 0x30303030, 0x30303522, 0x2c226e6f, 0x64654163,
        0x636f756e, 0x74496473, 0x223a5b22, 0x302e302e, 0x33225d2c, 0x226d6178, 0x5472616e,
        0x73616374, 0x696f6e46, 0x6565223a, 0x32303030, 0x30303030, 0x302c2262, 0x6f647922,
        0x3a7b2274, 0x79706522, 0x3a22746f, 0x70696344, 0x656c6574, 0x65222c22, 0x746f7069,
        0x63496422, 0x3a22302e, 0x302e3737, 0x227d7d80, 0, 0, 0, 0, 0, 0, 0, 0, 0x4d8] := by
    decide +kernel
  rw [Key.sha256, words]
  decide +kernel

theorem bodyBytes_readyDeletion : readyDeletion.bodyBytes = .ok (bytes deletionText) := by
  have text : (readyDeletion.signedPart ⟨⟨0, 0, 1001⟩, ⟨1700000000, 5⟩⟩).render = deletionText := by
    decide +kernel
  rw [← text]
  rfl

/-- The calls that make a new deletion ready. -/
def readying : List Action :=
  [.setId ⟨⟨0, 0, 1001⟩, ⟨1700000000, 5⟩⟩, .freeze ⟨none, [⟨0, 0, 3⟩]⟩ ⟨0, 0⟩]

theorem run_readying : (ofBody (.topicDelete ⟨0, 0, 77⟩)).run readying = readyDeletion := rfl

/-- The first of two keys that sign it. -/
def firstKey : PrivateKey := ⟨1, Nat.one_pos, Key.one_lt_groupOrder⟩

def secondKey : PrivateKey := ⟨2, Nat.two_pos, Key.two_lt_groupOrder⟩

/-- The first key signs, the second, and the first again. -/
def signing : List Action :=
  [firstKey, secondKey, firstKey].map .sign

theorem signatures_run_again :
    let t := (ofBody (.topicDelete ⟨0, 0, 77⟩)).run (readying ++ signing)
    t.signatures.map SignaturePair.publicKey = [secondKey.publicKey, firstKey.publicKey] ∧
      t.bodyBytes = .ok (bytes deletionText) ∧
      ∀ pair ∈ t.signatures, pair.Verifies (bytes deletionText) := by
  intro t
  have first := @PrivateKey.signsSoundly_of_hash firstKey _ _ sha256_deletionText
    (by decide +kernel)
  have second := @PrivateKey.signsSoundly_of_hash secondKey _ _ sha256_deletionText
    (by decide +kernel)
  have signers : (ofBody (.topicDelete ⟨0, 0, 77⟩)).signers (readying ++ signing) =
      [firstKey, secondKey, firstKey] := by
    rw [signers_append, run_readying, signing,
      signers_signing rfl bodyBytes_readyDeletion (by simp [first.1, second.1])]
    rfl
  have covered : t.bodyBytes = .ok (bytes deletionText) := by
    obtain ⟨signatures, after⟩ := run_of_frozen (t := readyDeletion) rfl signing
    change bodyBytes (run _ (_ ++ _)) = _
    rw [run_append, run_readying, after]
    exact bodyBytes_readyDeletion
  have other : firstKey.publicKey ≠ secondKey.publicKey := by decide +kernel
  obtain ⟨-, -, keys, -, verifies⟩ :=
    signatures_run (.topicDelete ⟨0, 0, 77⟩) (readying ++ signing)
  rw [signers] at keys verifies
  refine ⟨keys.trans ?_, covered, verifies _ covered (by simp [first.2, second.2])⟩
  simp [List.dedup_cons_of_mem, List.dedup_cons_of_notMem, other, other.symm]

end Transaction

end LedgerAgent
