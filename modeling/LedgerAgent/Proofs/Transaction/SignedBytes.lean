/-
Module: LedgerAgent.Proofs.Transaction.SignedBytes
Purpose: The bytes that signatures cover determine the terms of a transaction and are read
  back as them, and which calls leave them alone, depending on where the transaction comes
  from.
Main exports: Transaction.SameTerms, Transaction.sameTerms_of_bodyBytes,
  Transaction.ofBytes_bodyBytes, Transaction.Action.Repeats, Transaction.bodyBytes_act,
  Transaction.Route
-/
import LedgerAgent.Proofs.Transaction.Lifecycle

namespace LedgerAgent

open Json (Fits MembersFit)

/-! ### Parts told apart by their JSON -/

theorem EntityId.toJson_inj {kind : EntityKind} {id id' : EntityId kind}
    (h : id.toJson = id'.toJson) : id = id' := by
  simp only [toJson, toText, Json.string.injEq, String.ofList_inj] at h
  exact chars_inj h

theorem TransactionId.toJson_inj {id id' : TransactionId} (h : id.toJson = id'.toJson) :
    id = id' := by
  simp only [toJson, toText, Json.string.injEq, String.ofList_inj] at h
  exact chars_inj h

/-- Bodies are told apart by their JSON form. -/
theorem Body.toJson_inj {body body' : Body} (h : body.toJson = body'.toJson) : body = body' := by
  have read := body.reads_toJson .text
  rw [h, body'.reads_toJson .text] at read
  exact (Except.ok.inj read).symm

theorem Body.list_inj {α : Type} {f : α → Json} (inj : ∀ {a b}, f a = f b → a = b)
    {as bs : List α} (h : list f as = list f bs) : as = bs := by
  simp only [list, Json.array.injEq] at h
  exact List.map_injective_iff.2 (fun _ _ => inj) h

namespace Transaction

/-! ### The bytes that signatures cover -/

/-- What signatures cover nests less deeply than any reader allows. -/
theorem fits_signedPart (t : Transaction) (id : TransactionId) :
    Fits Json.maxDepth (t.signedPart id) := by
  have nodes : Fits 126 (Body.list EntityId.toJson t.nodes) :=
    Body.fits_list EntityId.fits_toJson
  have body : Fits 126 t.body.toJson := t.body.fits_toJson
  simp [Json.maxDepth, signedPart, Fits, MembersFit, Json.membersFit_append,
    TransactionId.fits_toJson, Json.fits_uint64, Json.membersFit_member? Json.fits_string, nodes,
    body]

/-- A transaction with an identity has bytes to be signed. -/
theorem bodyBytes_of_id {t : Transaction} {id : TransactionId} (h : t.id = some id) :
    t.bodyBytes = .ok (Text.bytes (t.signedPart id).render) := by
  rw [bodyBytes, bodyText, h]
  rfl

theorem id_of_bodyBytes {t : Transaction} {message : List UInt8}
    (h : t.bodyBytes = .ok message) : ∃ id, t.id = some id := by
  cases known : t.id with
  | none => simp [bodyBytes, bodyText, known, Except.map] at h
  | some id => exact ⟨id, rfl⟩

/-- Two transactions say the same: identity, nodes, fee, memo and body. -/
structure SameTerms (t t' : Transaction) : Prop where
  id : t'.id = t.id
  nodes : t'.nodes = t.nodes
  fee : t'.maxFee.getD defaultMaxFee = t.maxFee.getD defaultMaxFee
  memo : t'.memo = t.memo
  body : t'.body = t.body

/-- Transactions of the same terms are signed in the same bytes. -/
theorem SameTerms.bodyBytes {t t' : Transaction} (h : SameTerms t t') :
    t'.bodyBytes = t.bodyBytes := by
  simp only [Transaction.bodyBytes, bodyText, signedPart, h.id, h.nodes, h.fee, h.memo, h.body]

/-- A memo that may be absent is not taken for what follows it. -/
theorem memo_inj {memo memo' : Option String} {v v' : Json}
    (h : Json.member? "memo" Json.string memo ++ [("body", v)] =
      Json.member? "memo" Json.string memo' ++ [("body", v')]) : memo = memo' ∧ v = v' := by
  cases memo with
  | none =>
      cases memo' with
      | none => simpa [Json.member?] using h
      | some text => simp [Json.member?] at h
  | some text =>
      cases memo' with
      | none => simp [Json.member?] at h
      | some text' => simpa [Json.member?] using h

/-- Transactions with the same bytes to sign say the same. -/
theorem sameTerms_of_bodyBytes {t t' : Transaction} {message : List UInt8}
    (h : t.bodyBytes = .ok message) (h' : t'.bodyBytes = .ok message) : SameTerms t t' := by
  obtain ⟨id, known⟩ := id_of_bodyBytes h
  obtain ⟨id', known'⟩ := id_of_bodyBytes h'
  rw [bodyBytes_of_id known, Except.ok.injEq] at h
  rw [bodyBytes_of_id known', Except.ok.injEq] at h'
  have parts := Json.bytes_render_inj (t'.fits_signedPart id') (t.fits_signedPart id)
    (h'.trans h.symm)
  simp only [signedPart, Json.object.injEq, List.cons_append, List.nil_append, List.cons.injEq,
    Prod.mk.injEq, true_and] at parts
  obtain ⟨ids, nodes, fees, rest⟩ := parts
  obtain ⟨memos, bodies⟩ := memo_inj rest
  simp only [Json.uint64, Json.number.injEq, Json.Number.natural.injEq] at fees
  refine ⟨?_, Body.list_inj EntityId.toJson_inj nodes, ?_, memos, Body.toJson_inj bodies⟩
  · rw [known, known', TransactionId.toJson_inj ids]
  · exact congrArg Tinybars.mk fees

/-- The bytes to be signed settle the terms, and the terms the bytes. -/
theorem bodyBytes_eq_iff {t t' : Transaction} {message : List UInt8}
    (h : t.bodyBytes = .ok message) : t'.bodyBytes = .ok message ↔ SameTerms t t' := by
  constructor
  · exact sameTerms_of_bodyBytes h
  · intro same
    rw [same.bodyBytes, h]

/-! ### The bytes read back -/

/-- The signed part is decoded as the transaction with its fee and without its signatures:
it has no member for those, and their default is taken. -/
theorem reads_signedPart {t : Transaction} {id : TransactionId} (known : t.id = some id)
    (inRange : id.validStart.WithinSecond) :
    Json.Reads decode (t.signedPart id).toReading
      { t with
        maxFee := some (t.maxFee.getD defaultMaxFee), signatures := [], frozen := false } := by
  obtain ⟨_, nodes, fee, memo, body, signatures, frozen⟩ := t
  cases known
  refine Json.reads_record (by decide) ?_ ?_
  · have names : List.Sublist
        (["transactionId", "nodeAccountIds", "maxTransactionFee"] ++ ["memo"] ++ ["body"])
        ["transactionId", "nodeAccountIds", "maxTransactionFee", "memo", "body", "signatures"] := by
      decide
    refine .trans ?_ names
    simp only [List.map_append]
    exact ((List.Sublist.refl _).append (Json.names_member? _ _ _)).append (.refl _)
  · refine ((((((Json.Fields.takes_omissible (o := some id) (f := TransactionId.toJson) ?_ nofun
        ?_).map _).seq
      (Json.Fields.takes_field ?_ (Json.reads_list fun node _ => node.reads_toJson))).seq
      (Json.Fields.takes_omissible (o := some (fee.getD defaultMaxFee).count) (f := Json.uint64) ?_
        nofun fun n _ => Json.reads_uint64 n)).seq
      (Json.Fields.takes_omissible (f := Json.string) ?_ nofun fun s _ => Json.reads_string s)).seq
      (Json.Fields.takes_field ?_ body.reads_toJson)).seq
      (Json.Fields.takes_absent ?_)
    case refine_2 =>
      rintro id' ⟨⟩
      exact TransactionId.reads_toJson inRange
    all_goals simp [Body.list, List.lookup_append, Json.lookup_cons_eq, Json.lookup_member?]

/-- The signed bytes bind the whole transaction: read back they are the frozen transaction
without its signatures, those are not covered, and whoever has the same signed bytes says
the same. -/
theorem ofBytes_bodyBytes {t : Transaction} {id : TransactionId} (frozen : t.frozen = true)
    (known : t.id = some id) (inRange : id.validStart.WithinSecond) :
    (∃ message, t.bodyBytes = .ok message ∧
      ofBytes message =
        .ok { t with maxFee := some (t.maxFee.getD defaultMaxFee), signatures := [] }) ∧
    (∀ signatures, { t with signatures := signatures }.bodyBytes = t.bodyBytes) ∧
    ∀ t' : Transaction, t'.bodyBytes = t.bodyBytes → SameTerms t t' := by
  have covered := bodyBytes_of_id known
  refine ⟨⟨_, covered, ?_⟩, ?_, ?_⟩
  · have decoded := Json.decodeBytes_render (t.fits_signedPart id)
      (reads_signedPart known inRange)
    have present : ¬ t.id.isNone = true := by
      rw [known]
      exact Bool.false_ne_true
    simp only [ofBytes, decoded]
    rw [if_neg present, frozen]
  · intro signatures
    exact SameTerms.bodyBytes ⟨rfl, rfl, rfl, rfl, rfl⟩
  · intro t' same
    exact sameTerms_of_bodyBytes covered (same.trans covered)

/-- A transfer that names no fee is read back with the default one. -/
theorem ofBytes_bodyBytes_withoutFee :
    ∃ message, { signedTransfer with maxFee := none }.bodyBytes = .ok message ∧
      ofBytes message =
        .ok { signedTransfer with maxFee := some defaultMaxFee, signatures := [] } :=
  (ofBytes_bodyBytes (t := { signedTransfer with maxFee := none }) rfl rfl (by decide)).1

/-! ### Calls that leave the bytes alone -/

/-- What a call sets is what the transaction says already. -/
def Action.Repeats (t : Transaction) : Action → Prop
  | .setId id => t.id = some id
  | .setNodes nodes => t.nodes = nodes
  | .setMaxFee fee => t.maxFee.getD defaultMaxFee = fee
  | .setMemo memo => t.memo = some memo
  | .freeze source _ => t.nodes = [] → source.nodes = []
  | .sign _ => True

/-- Freezing keeps the terms of an open transaction with an identity, unless it gets nodes by it.
-/
theorem sameTerms_freeze {t : Transaction} {id : TransactionId} (opened : t.frozen = false)
    (known : t.id = some id) (source : FreezeSource) (now : Instant) :
    SameTerms t (t.freeze source now).1 ↔ (t.nodes = [] → source.nodes = []) := by
  have sameNodes : t.nodesFrom source = t.nodes ↔ (t.nodes = [] → source.nodes = []) := by
    cases named : t.nodes with
    | nil => simp [nodesFrom, named]
    | cons node rest => simp [nodesFrom, named]
  have sameId : t.idFrom source now = t.id := by simp [idFrom, known]
  rw [← sameNodes]
  rcases freeze_cases opened source now with
    ⟨missing, _⟩ | ⟨id', found, ⟨unnamed, failed⟩ | ⟨_, closed⟩⟩
  · simp [idFrom, known] at missing
  · rw [failed, unnamed]
    constructor
    · intro same
      exact same.nodes
    · intro repeats
      exact ⟨found.symm.trans sameId, repeats, rfl, rfl, rfl⟩
  · rw [closed]
    constructor
    · intro same
      exact same.nodes
    · intro repeats
      exact ⟨found.symm.trans sameId, repeats, rfl, rfl, rfl⟩

/-- A frozen transaction says the same after any call. -/
theorem sameTerms_act_of_frozen {t : Transaction} (frozen : t.frozen = true) (action : Action) :
    SameTerms t (t.act action).1 := by
  obtain ⟨signatures, after⟩ := act_of_frozen frozen action
  rw [after]
  exact ⟨rfl, rfl, rfl, rfl, rfl⟩

/-- An open transaction with an identity says the same after a call exactly if the call
repeats what it says. -/
theorem sameTerms_act_of_open {t : Transaction} {id : TransactionId} (opened : t.frozen = false)
    (known : t.id = some id) (action : Action) :
    SameTerms t (t.act action).1 ↔ action.Repeats t := by
  cases action with
  | setId id' =>
      rw [act, setId, edit_of_open opened]
      constructor
      · intro same
        exact same.id.symm
      · intro repeats
        exact ⟨repeats.symm, rfl, rfl, rfl, rfl⟩
  | setNodes nodes =>
      rw [act, setNodes, edit_of_open opened]
      constructor
      · intro same
        exact same.nodes.symm
      · intro repeats
        exact ⟨rfl, repeats.symm, rfl, rfl, rfl⟩
  | setMaxFee fee =>
      rw [act, setMaxFee, edit_of_open opened]
      constructor
      · intro same
        exact same.fee.symm
      · intro repeats
        exact ⟨rfl, rfl, repeats.symm, rfl, rfl⟩
  | setMemo memo =>
      rw [act, setMemo, edit_of_open opened]
      constructor
      · intro same
        exact same.memo.symm
      · intro repeats
        exact ⟨rfl, rfl, rfl, repeats.symm, rfl⟩
  | freeze source now => exact sameTerms_freeze opened known source now
  | sign key =>
      rcases t.sign_cases key with ⟨e, refused⟩ | ⟨_, _, frozen, _⟩
      · rw [act, refused]
        exact ⟨fun _ => trivial, fun _ => ⟨rfl, rfl, rfl, rfl, rfl⟩⟩
      · exact absurd frozen (by simp [opened])

/-- The bytes that signatures cover outlast a call exactly if the transaction is frozen or
the call repeats what it says. -/
theorem bodyBytes_act {t : Transaction} {message : List UInt8} (h : t.bodyBytes = .ok message)
    (action : Action) :
    (t.act action).1.bodyBytes = .ok message ↔ t.frozen = true ∨ action.Repeats t := by
  rw [bodyBytes_eq_iff h]
  cases frozen : t.frozen with
  | true => simp [sameTerms_act_of_frozen frozen action]
  | false =>
      obtain ⟨id, known⟩ := id_of_bodyBytes h
      simp [sameTerms_act_of_open frozen known action]

/-! ### Where a transaction comes from -/

/-- The ways to come by a transaction: a new one, one from its bytes, or one from JSON
text. -/
inductive Route where
  | new (body : Body)
  | bytes (bs : List UInt8)
  | text (json : String)

/-- The transaction at the end of a route. -/
def Route.start? : Route → Option Transaction
  | .new body => some (ofBody body)
  | .bytes bs => (ofBytes bs).toOption
  | .text json => (Json.decodeText decode json).toOption

/-- Whether a route leads to transactions by their JSON text. -/
def Route.isText : Route → Bool
  | .text _ => true
  | .new _ | .bytes _ => false

/-- Only JSON text leads to signatures on an open transaction. -/
theorem guarded_start {route : Route} {t : Transaction} (reached : route.start? = some t)
    (other : route.isText = false) : t.Guarded := by
  cases route with
  | new body =>
      cases reached
      exact (signed_ofBody body).guarded
  | bytes bs =>
      cases held : ofBytes bs with
      | error e => simp [Route.start?, held, Except.toOption] at reached
      | ok t' =>
          obtain rfl : t' = t := by simpa [Route.start?, held, Except.toOption] using reached
          exact fun _ => (settled_of_ofBytes held).frozen
  | text json => cases other

/-- When signatures go stale: the bytes that the signatures of a transaction cover outlast
a call unless the transaction was decoded from JSON text, has not been frozen since, and
the call sets something it does not say already. -/
theorem bodyBytes_act_iff {route : Route} {start : Transaction} {message : List UInt8}
    (reached : route.start? = some start) (actions : List Action)
    (signed : (start.run actions).signatures ≠ [])
    (covered : (start.run actions).bodyBytes = .ok message) (action : Action) :
    ((start.run actions).act action).1.bodyBytes = .ok message ↔
      route.isText = false ∨ (start.run actions).frozen = true ∨
        action.Repeats (start.run actions) := by
  rw [bodyBytes_act covered]
  constructor
  · intro lasting
    exact .inr lasting
  · rintro (other | lasting)
    · exact .inl ((guarded_start reached other).run actions signed)
    · exact lasting

theorem bodyBytes_act_signedTransfer :
    ∃ message, signedTransfer.bodyBytes = .ok message ∧
      (signedTransfer.act (.setMemo "other")).1.bodyBytes = .ok message := by
  have reached : (Route.bytes (Text.bytes signedTransfer.toJson.render)).start? =
      some signedTransfer := by
    rw [Route.start?, ofBytes_render rfl (by decide)]
    rfl
  have covered := bodyBytes_of_id (t := signedTransfer) rfl
  have signed : (signedTransfer.run []).signatures ≠ [] := List.cons_ne_nil _ _
  exact ⟨_, covered, (bodyBytes_act_iff reached [] signed covered (.setMemo "other")).2 (.inl rfl)⟩

/-- The text of a signed transaction, decoded, is signed and open, and another memo makes
its signature stale. -/
theorem bodyBytes_setMemo_signedTransfer :
    ∃ t message, Json.decodeText decode signedTransfer.toJson.render = .ok t ∧
      t.signatures ≠ [] ∧ t.bodyBytes = .ok message ∧
      (t.act (.setMemo "other")).1.bodyBytes ≠ .ok message := by
  have decoded : Json.decodeText decode signedTransfer.toJson.render =
      .ok { signedTransfer with frozen := false } := by
    refine Json.decodeText_render signedTransfer.fits_toJson (reads_toJson ?_)
    rintro id ⟨⟩
    decide
  have covered := bodyBytes_of_id (t := { signedTransfer with frozen := false }) rfl
  refine ⟨_, _, decoded, List.cons_ne_nil _ _, covered, ?_⟩
  rw [ne_eq, bodyBytes_act covered]
  rintro (frozen | repeats)
  · cases frozen
  · exact absurd (Option.some.inj repeats) (by decide)

end Transaction

end LedgerAgent
