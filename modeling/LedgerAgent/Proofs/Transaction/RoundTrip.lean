/-
Module: LedgerAgent.Proofs.Transaction.RoundTrip
Purpose: Transactions and their parts are decoded from their own JSON form, and frozen
  transactions from their own bytes, as they are or as base64 text.
Main exports: Body.reads_toJson, Transaction.reads_toJson, Transaction.fits_toJson,
  Transaction.ofBytes_render, Transaction.yields_decode, Transaction.encoded,
  Transaction.ofEncoded?, Transaction.ofEncoded?_encoded
-/
import LedgerAgent.Transaction.Basic
import LedgerAgent.Proofs.Json.Decoding
import LedgerAgent.Proofs.KeySpelling
import LedgerAgent.Proofs.Text.Base64

namespace LedgerAgent

open Json (Reads reads_record record_toReading reads_list reads_string reads_uint64 reads_uint32
  reads_int64 Fits ItemsFit MembersFit)
open Json.Fields (takes_field takes_absent takes_omissible)

/-! ### Texts and names -/

section Texts

variable {kind : EntityKind}

theorem EntityId.reads_toJson (id : EntityId kind) :
    Reads EntityId.decode id.toJson.toReading id :=
  Json.reads_via id.parse_toText

theorem TransactionId.reads_toJson {id : TransactionId} (h : id.validStart.WithinSecond) :
    Reads TransactionId.decode id.toJson.toReading id :=
  Json.reads_via (TransactionId.parse_toText h)

theorem PublicKey.reads_toJson (key : PublicKey) :
    Reads PublicKey.decode key.toJson.toReading key :=
  Json.reads_via key.parse_toText

theorem TokenType.reads_toJson (t : TokenType) : Reads TokenType.decode t.toJson.toReading t := by
  cases t with
  | fungibleCommon => exact Json.reads_unitVariant (by decide)
  | nonFungibleUnique => exact Json.reads_unitVariant (by decide)

theorem SupplyType.reads_toJson (t : SupplyType) :
    Reads SupplyType.decode t.toJson.toReading t := by
  cases t with
  | infinite => exact Json.reads_unitVariant (by decide)
  | finite => exact Json.reads_unitVariant (by decide)

end Texts

/-! ### Transfers, allowances and airdrops

Each is a record whose members are all written, so every field finds its value. -/

theorem HbarTransfer.reads_toJson (t : HbarTransfer) :
    Reads HbarTransfer.decode t.toJson.toReading t := by
  refine reads_record (by decide) (.refl _) ?_
  exact ((takes_field rfl t.account.reads_toJson).map _).seq
    (takes_field rfl (reads_int64 t.amount))

theorem TokenTransfer.reads_toJson (t : TokenTransfer) :
    Reads TokenTransfer.decode t.toJson.toReading t := by
  refine reads_record (by decide) (.refl _) ?_
  exact (((takes_field rfl t.token.reads_toJson).map _).seq
    (takes_field rfl t.account.reads_toJson)).seq
    (takes_field rfl (reads_int64 t.amount))

theorem HbarAllowance.reads_toJson (a : HbarAllowance) :
    Reads HbarAllowance.decode a.toJson.toReading a := by
  refine reads_record (by decide) (.refl _) ?_
  exact (((takes_field rfl a.owner.reads_toJson).map _).seq
    (takes_field rfl a.spender.reads_toJson)).seq
    (takes_field rfl (reads_uint64 a.amount.count))

theorem TokenAllowance.reads_toJson (a : TokenAllowance) :
    Reads TokenAllowance.decode a.toJson.toReading a := by
  refine reads_record (by decide) (.refl _) ?_
  exact ((((takes_field rfl a.token.reads_toJson).map _).seq
    (takes_field rfl a.owner.reads_toJson)).seq
    (takes_field rfl a.spender.reads_toJson)).seq
    (takes_field rfl (reads_uint64 a.amount))

theorem PendingAirdropId.reads_toJson (p : PendingAirdropId) :
    Reads PendingAirdropId.decode p.toJson.toReading p := by
  refine reads_record (by decide) (.refl _) ?_
  exact (((takes_field rfl p.sender.reads_toJson).map _).seq
    (takes_field rfl p.receiver.reads_toJson)).seq
    (takes_field rfl p.token.reads_toJson)

theorem SignaturePair.reads_toJson (pair : SignaturePair) :
    Reads SignaturePair.decode pair.toJson.toReading pair := by
  refine reads_record (by decide) (.refl _) ?_
  exact ((takes_field rfl pair.publicKey.reads_toJson).map _).seq
    (takes_field rfl (reads_string pair.signature))

/-! ### Token creations -/

/-- The members are written in the order of the known names. -/
theorem TokenCreation.names_members (t : TokenCreation) :
    (t.members.map Prod.fst).Sublist memberNames := by
  simp only [members, List.map_append]
  exact (((((((List.Sublist.refl _).append (Json.names_member? _ _ _)).append (.refl _)).append
    (Json.names_member? _ _ _)).append (Json.names_member? _ _ _)).append
    (Json.names_member? _ _ _)).append (Json.names_member? _ _ _)).append
    (Json.names_member? _ _ _)

/-- A token creation is read from its members. -/
theorem TokenCreation.reads_members (t : TokenCreation) :
    Reads TokenCreation.decode (Json.toReading (.object t.members)) t := by
  refine reads_record (by decide) t.names_members ?_
  refine ((((((((((((((takes_field ?_ (reads_string t.name)).map _).seq
    (takes_field ?_ (reads_string t.symbol))).seq
    (takes_field ?_ t.tokenType.reads_toJson)).seq
    (takes_field ?_ (reads_uint32 t.decimals))).seq
    (takes_field ?_ (reads_uint64 t.initialSupply))).seq
    (takes_field ?_ t.supplyType.reads_toJson)).seq
    (takes_omissible (f := Json.uint64) ?_ nofun fun n _ => reads_uint64 n)).seq
    (takes_field ?_ t.treasury.reads_toJson)).seq
    (takes_omissible (f := PublicKey.toJson) ?_ nofun fun key _ => key.reads_toJson)).seq
    (takes_omissible (f := PublicKey.toJson) ?_ nofun fun key _ => key.reads_toJson)).seq
    (takes_omissible (f := PublicKey.toJson) ?_ nofun fun key _ => key.reads_toJson)).seq
    (takes_omissible (f := Json.string) ?_ nofun fun s _ => reads_string s)).seq
    (takes_omissible (f := Json.string) ?_ nofun fun s _ => reads_string s))
  all_goals simp [members, List.lookup_append, Json.lookup_cons_eq, Json.lookup_member?]

/-! ### Bodies -/

namespace Body

/-- The tag of a kind names it. -/
theorem lookup_table (kind : BodyKind) : BodyKind.table.lookup kind.tag = some kind := by
  cases kind <;> decide

/-- The names of the members that a body of a kind can have, in their order. -/
def memberNames : BodyKind → List String
  | .topicCreate => ["memo", "adminKey", "submitKey"]
  | .topicDelete => ["topicId"]
  | .topicMessageSubmit => ["topicId", "message"]
  | .cryptoTransfer => ["hbarTransfers", "tokenTransfers"]
  | .tokenCreate => TokenCreation.memberNames
  | .tokenMint => ["tokenId", "amount", "metadata"]
  | .tokenAssociate => ["accountId", "tokenIds"]
  | .tokenDissociate => ["accountId", "tokenIds"]
  | .tokenAirdrop => ["tokenTransfers"]
  | .tokenClaimAirdrop => ["pendingAirdropIds"]
  | .tokenReject => ["ownerId", "tokenIds"]
  | .approveAllowance => ["hbarAllowances", "tokenAllowances"]

/-- The members of a body come in the order of the names for its kind. -/
theorem names_members (body : Body) :
    (body.members.map Prod.fst).Sublist (memberNames body.kind) := by
  cases body with
  | topicCreate memo adminKey submitKey =>
      simp only [members, List.map_append]
      exact ((Json.names_member? _ _ _).append (Json.names_member? _ _ _)).append
        (Json.names_member? _ _ _)
  | tokenCreate token => exact token.names_members
  | _ => exact .refl _

/-- No body has a member that could be taken for its tag. -/
theorem ne_type_of_mem_members {body : Body} : ∀ m ∈ body.members, m.1 ≠ "type" := by
  intro m member same
  have known : m.1 ∈ memberNames body.kind :=
    body.names_members.subset (List.mem_map_of_mem member)
  have noTag : ∀ kind, "type" ∉ memberNames kind := by
    intro kind
    cases kind <;> decide
  rw [same] at known
  exact noTag _ known

/-- The members behind the tag are decoded as the body. -/
theorem decodeContent_members (body : Body) :
    decodeContent body.kind (Json.toReading (.object body.members)) = .ok body := by
  cases body with
  | topicCreate memo adminKey submitKey =>
      refine record_toReading (by decide) (names_members (.topicCreate memo adminKey submitKey)) ?_
      refine (((takes_omissible (f := Json.string) ?_ nofun fun s _ => reads_string s).map _).seq
        (takes_omissible (f := PublicKey.toJson) ?_ nofun fun key _ => key.reads_toJson)).seq
        (takes_omissible (f := PublicKey.toJson) ?_ nofun fun key _ => key.reads_toJson)
      all_goals simp [members, List.lookup_append, Json.lookup_member?]
  | topicDelete topic =>
      refine record_toReading (by decide) (.refl _) ?_
      exact (takes_field rfl topic.reads_toJson).map _
  | topicMessageSubmit topic message =>
      refine record_toReading (by decide) (.refl _) ?_
      exact ((takes_field rfl topic.reads_toJson).map _).seq
        (takes_field rfl (reads_string message))
  | cryptoTransfer hbar tokens =>
      refine record_toReading (by decide) (.refl _) ?_
      exact ((takes_field rfl (reads_list fun t _ => t.reads_toJson)).map _).seq
        (takes_field rfl (reads_list fun t _ => t.reads_toJson))
  | tokenCreate token =>
      simp only [kind, decodeContent, members, token.reads_members .setAside]
      rfl
  | tokenMint token amount metadata =>
      refine record_toReading (by decide) (.refl _) ?_
      exact (((takes_field rfl token.reads_toJson).map _).seq
        (takes_field rfl (reads_uint64 amount))).seq
        (takes_field rfl (reads_list fun s _ => reads_string s))
  | tokenAssociate account tokens =>
      refine record_toReading (by decide) (.refl _) ?_
      exact ((takes_field rfl account.reads_toJson).map _).seq
        (takes_field rfl (reads_list fun t _ => t.reads_toJson))
  | tokenDissociate account tokens =>
      refine record_toReading (by decide) (.refl _) ?_
      exact ((takes_field rfl account.reads_toJson).map _).seq
        (takes_field rfl (reads_list fun t _ => t.reads_toJson))
  | tokenAirdrop transfers =>
      refine record_toReading (by decide) (.refl _) ?_
      exact (takes_field rfl (reads_list fun t _ => t.reads_toJson)).map _
  | tokenClaimAirdrop airdrops =>
      refine record_toReading (by decide) (.refl _) ?_
      exact (takes_field rfl (reads_list fun p _ => p.reads_toJson)).map _
  | tokenReject owner tokens =>
      refine record_toReading (by decide) (.refl _) ?_
      exact ((takes_field rfl owner.reads_toJson).map _).seq
        (takes_field rfl (reads_list fun t _ => t.reads_toJson))
  | approveAllowance hbar tokens =>
      refine record_toReading (by decide) (.refl _) ?_
      exact ((takes_field rfl (reads_list fun a _ => a.reads_toJson)).map _).seq
        (takes_field rfl (reads_list fun a _ => a.reads_toJson))

/-- A body is read from its own JSON form. -/
theorem reads_toJson (body : Body) : Reads Body.decode body.toJson.toReading body := by
  intro origin
  rw [toJson, decode, Json.tagged_toReading (lookup_table body.kind) ne_type_of_mem_members]
  exact body.decodeContent_members

end Body

/-! ### Room

Nothing that is written nests deeply: a transfer stands in a list, the list in a body,
and the body in the transaction. -/

section Room

variable {room : Nat}

theorem EntityId.fits_toJson {kind : EntityKind} (id : EntityId kind) : Fits room id.toJson := by
  simp [toJson, Fits]

theorem TransactionId.fits_toJson (id : TransactionId) : Fits room id.toJson := by
  simp [toJson, Fits]

theorem PublicKey.fits_toJson (key : PublicKey) : Fits room key.toJson := by
  simp [toJson, Fits]

theorem Json.fits_uint64 (n : UInt64) : Fits room (.uint64 n) := by
  simp [Json.uint64, Fits, Json.Number.Integral]

theorem Json.fits_int64 (n : Int64) : Fits room (.int64 n) := by
  simp [Json.int64, Fits, Json.int64_integral]

/-- A list of what fits needs room for one container more. -/
theorem Body.fits_list {α : Type} {f : α → Json} {as : List α} (h : ∀ a, Fits room (f a)) :
    Fits (room + 1) (list f as) := by
  simpa only [list, Fits] using Json.itemsFit_map fun a _ => h a

theorem HbarTransfer.fits_toJson (t : HbarTransfer) : Fits (room + 1) t.toJson := by
  simp [toJson, Fits, MembersFit, EntityId.fits_toJson, Json.fits_int64]

theorem TokenTransfer.fits_toJson (t : TokenTransfer) : Fits (room + 1) t.toJson := by
  simp [toJson, Fits, MembersFit, EntityId.fits_toJson, Json.fits_int64]

theorem HbarAllowance.fits_toJson (a : HbarAllowance) : Fits (room + 1) a.toJson := by
  simp [toJson, Fits, MembersFit, EntityId.fits_toJson, Json.fits_uint64]

theorem TokenAllowance.fits_toJson (a : TokenAllowance) : Fits (room + 1) a.toJson := by
  simp [toJson, Fits, MembersFit, EntityId.fits_toJson, Json.fits_uint64]

theorem PendingAirdropId.fits_toJson (p : PendingAirdropId) : Fits (room + 1) p.toJson := by
  simp [toJson, Fits, MembersFit, EntityId.fits_toJson]

theorem SignaturePair.fits_toJson (pair : SignaturePair) : Fits (room + 1) pair.toJson := by
  simp [toJson, Fits, MembersFit, PublicKey.fits_toJson]

theorem TokenCreation.fits_members (t : TokenCreation) : MembersFit room t.members := by
  obtain ⟨_, _, tokenType, _, _, supplyType, _⟩ := t
  cases tokenType <;> cases supplyType <;>
    simp [members, TokenType.toJson, SupplyType.toJson, Json.membersFit_append, MembersFit,
      Json.membersFit_member?, Json.membersFit_member? Json.fits_string, Fits,
      EntityId.fits_toJson, PublicKey.fits_toJson, Json.fits_uint64, Json.uint32,
      Json.Number.Integral]

/-- The members of a body nest no deeper than a list of transfers. -/
theorem Body.fits_members (body : Body) : MembersFit (room + 2) body.members := by
  cases body with
  | tokenCreate token => exact token.fits_members
  | _ =>
      simp [members, Json.membersFit_append, MembersFit, Json.membersFit_member?,
        Json.membersFit_member? Json.fits_string, fits_list, fits_list Json.fits_string, Fits,
        EntityId.fits_toJson, PublicKey.fits_toJson, Json.fits_uint64,
        HbarTransfer.fits_toJson, TokenTransfer.fits_toJson, HbarAllowance.fits_toJson,
        TokenAllowance.fits_toJson, PendingAirdropId.fits_toJson]

theorem Body.fits_toJson (body : Body) : Fits (room + 3) body.toJson := by
  simp [toJson, Fits, MembersFit, body.fits_members]

end Room

/-! ### Transactions -/

namespace Transaction

/-- A transaction nests less deeply than any reader allows. -/
theorem fits_toJson (t : Transaction) : Fits Json.maxDepth t.toJson := by
  have nodes : Fits 126 (Body.list EntityId.toJson t.nodes) :=
    Body.fits_list EntityId.fits_toJson
  have body : Fits 126 t.body.toJson := t.body.fits_toJson
  have signatures : Fits 126 (Body.list SignaturePair.toJson t.signatures) :=
    Body.fits_list SignaturePair.fits_toJson
  simp [Json.maxDepth, toJson, Fits, MembersFit, Json.membersFit_append,
    Json.membersFit_member? TransactionId.fits_toJson,
    Json.membersFit_member? fun fee : Tinybars => Json.fits_uint64 fee.count,
    Json.membersFit_member? Json.fits_string, nodes, body, signatures]

/-- A transaction with an identity in range is decoded as it was, but for not being
frozen. -/
theorem reads_toJson {t : Transaction} (h : ∀ id ∈ t.id, id.validStart.WithinSecond) :
    Reads decode t.toJson.toReading { t with frozen := false } := by
  obtain ⟨id, nodes, fee, memo, body, signatures, frozen⟩ := t
  refine reads_record (by decide) ?_ ?_
  · simp only [List.map_append]
    exact ((((Json.names_member? _ _ _).append (.refl _)).append
      (Json.names_member? _ _ _)).append (Json.names_member? _ _ _)).append (.refl _)
  · have fees : (fee.map fun fee : Tinybars => fee.count).map Tinybars.mk = fee := by
      cases fee <;> rfl
    rw [← fees]
    refine ((((((takes_omissible (f := TransactionId.toJson) ?_ nofun
        fun id known => TransactionId.reads_toJson (h id known)).map _).seq
      (takes_field ?_ (reads_list fun node _ => node.reads_toJson))).seq
      (takes_omissible (f := Json.uint64) ?_ nofun fun n _ => reads_uint64 n)).seq
      (takes_omissible (f := Json.string) ?_ nofun fun s _ => reads_string s)).seq
      (takes_field ?_ body.reads_toJson)).seq
      (takes_field ?_ (reads_list fun pair _ => pair.reads_toJson))
    all_goals simp [Body.list, List.lookup_append, Json.lookup_cons_eq, Json.lookup_member?,
      Function.comp_def]

/-- The bytes of a frozen transaction are those of its text. -/
theorem toBytes_of_frozen {t : Transaction} (h : t.frozen = true) :
    t.toBytes = .ok (Text.bytes t.toJson.render) := by
  rw [toBytes, toText, if_pos h]
  rfl

/-- The text of a transaction with an identity in range holds it as a frozen one. -/
theorem ofBytes_render {t : Transaction} {id : TransactionId} (known : t.id = some id)
    (inRange : id.validStart.WithinSecond) :
    ofBytes (Text.bytes t.toJson.render) = .ok { t with frozen := true } := by
  have decoded : Json.decodeBytes decode (Text.bytes t.toJson.render) =
      .ok { t with frozen := false } := by
    refine Json.decodeBytes_render t.fits_toJson (reads_toJson ?_)
    rintro id' same
    cases known.symm.trans same
    exact inRange
  have present : ¬ t.id.isNone = true := by
    rw [known]
    exact Bool.false_ne_true
  simp only [ofBytes, decoded]
  rw [if_neg present]

/-- Serialization loses nothing: a frozen transaction whose identity is in range has
bytes, and those are the bytes of that very transaction. -/
theorem ofBytes_toBytes {t : Transaction} {id : TransactionId} (frozen : t.frozen = true)
    (known : t.id = some id) (inRange : id.validStart.WithinSecond) :
    ∃ bs, t.toBytes = .ok bs ∧ ofBytes bs = .ok t := by
  refine ⟨_, toBytes_of_frozen frozen, ?_⟩
  rw [ofBytes_render known inRange]
  obtain ⟨_, _, _, _, _, _, _⟩ := t
  cases frozen
  rfl

/-- Whatever text a transaction comes from, it is open, and its identity is in range. -/
theorem yields_decode :
    Json.Yields decode fun t => t.frozen = false ∧ ∀ id ∈ t.id, id.validStart.WithinSecond := by
  refine Json.yields_record ?_
  refine .left (.left (.left (.left (.left (.map (Json.Fields.yields_field
    (Json.Yields.option (Json.yields_via fun _ _ => TransactionId.withinSecond_of_parse))
    ?_ ?_) ?_)))))
  · rintro _ ⟨⟩ _ ⟨⟩
  · rintro _ ⟨⟩ _ ⟨⟩
  · intro id inRange _ _ _ _ _
    exact ⟨rfl, inRange⟩

/-- A frozen transfer with a signature.  Its memo needs escapes, and its identity starts in
the last nanosecond of a second. -/
def signedTransfer : Transaction where
  id := some ⟨⟨0, 0, 5005⟩, ⟨-1, 999999999⟩⟩
  nodes := [⟨0, 0, 3⟩, ⟨0, 0, 4⟩]
  maxFee := some ⟨200000000⟩
  memo := some "\"é\" \\ \n"
  body := .cryptoTransfer [⟨⟨0, 0, 5005⟩, -18446⟩, ⟨⟨0, 0, 5006⟩, 18446⟩] []
  signatures := [⟨PrivateKey.publicKey ⟨1, by decide, by decide⟩, "00ff"⟩]
  frozen := true

theorem ofBytes_toBytes_signedTransfer :
    ∃ bs, signedTransfer.toBytes = .ok bs ∧ ofBytes bs = .ok signedTransfer :=
  ofBytes_toBytes rfl rfl (by decide)

/-! ### Bytes in base64 -/

/-- A transaction's text in bytes, and these in base64. -/
def encoded (t : Transaction) : String :=
  Text.Base64.encode (Text.bytes t.toJson.render)

/-- The transaction that somebody who is given a base64 text finds in it. -/
def ofEncoded? (text : String) : Option Transaction :=
  match Text.Base64.decode (Text.bytes text) with
  | .error _ => none
  | .ok bs => (ofBytes bs).toOption

/-- A frozen transaction that is handed out as text is the one found in it. -/
theorem ofEncoded?_encoded {t : Transaction} {id : TransactionId} (frozen : t.frozen = true)
    (known : t.id = some id) (inRange : id.validStart.WithinSecond) :
    ofEncoded? t.encoded = some t := by
  have same : { t with frozen := true } = t := by rw [← frozen]
  simp only [ofEncoded?, encoded, Text.Base64.decode_encode, ofBytes_render known inRange, same]
  rfl

end Transaction

end LedgerAgent
