/-
Module: LedgerAgent.Proofs.MirrorNode.Reply
Purpose: What the texts of a mirror node's replies say, member by member: the balances on a page
  with the link to the next, and the details of a token with its decimals.
Main exports: MirrorNode.Lists, MirrorNode.Page.decode_iff, MirrorNode.TokenDetails.Told,
  MirrorNode.fetched_balancesPage_iff, MirrorNode.fetched_tokenDetails_iff,
  MirrorNode.TokenDetails.Counts
-/
import LedgerAgent.Proofs.Identifier.Spelling
import LedgerAgent.Proofs.Json.Record
import LedgerAgent.Proofs.MirrorNode.Listing
import LedgerAgent.Proofs.Numeral.Spelling

namespace LedgerAgent

open Json (Decoder Fields Keyed Origin decodeList decodeString toReading)
open Text Text.Numeral

namespace MirrorNode

/-! ### Members -/

/-- A value is the text of an identifier. -/
def Identifies {kind : EntityKind} (v : Json) (id : EntityId kind) : Prop :=
  ∃ text, v = .string text ∧ EntityId.parse text = .ok id

/-- Under a name stands a value with a meaning; where there is none, nothing stands there or
`null` does. -/
def Offers {α : Type} (members : List (String × Json)) (name : String) (means : Json → α → Prop) :
    Option α → Prop
  | none => members.lookup name = none ∨ members.lookup name = some .null
  | some a => ∃ v, members.lookup name = some v ∧ means v a

/-- Under a name stands a list, each of whose items has a meaning; the list is empty if nothing
stands there. -/
def Lists {α : Type} (members : List (String × Json)) (name : String) (means : Json → α → Prop)
    (as : List α) : Prop :=
  (members.lookup name = none ∧ as = []) ∨
    ∃ items, members.lookup name = some (.array items) ∧ List.Forall₂ means items as

section

variable {α : Type} {origin : Origin} {index size : Nat} {name record : String} {d : Decoder α}
  {members : List (String × Json)}

/-- An identifier is decoded exactly from its texts. -/
theorem decodeEntity_iff {kind : EntityKind} {v : Json} {id : EntityId kind} :
    EntityId.decode origin v.toReading = .ok id ↔ Identifies v id := by
  constructor
  · exact EntityId.string_of_decode
  · rintro ⟨text, rfl, parsed⟩
    exact Json.reads_via parsed origin

/-- An unsigned integer is decoded from itself and from nothing else. -/
theorem decodeUInt64_iff {v : Json} {n : UInt64} :
    Json.decodeUInt64 origin v.toReading = .ok n ↔ v = .uint64 n := by
  constructor
  · intro decoded
    cases v with
    | number m =>
        cases m with
        | natural m =>
            cases decoded
            rfl
        | negative m => cases decoded
        | real x => cases decoded
    | _ => cases decoded
  · rintro rfl
    exact Json.reads_uint64 n origin

variable (keyed : Keyed (.object members))

include keyed

/-- What a record needs is decoded of the member of its name. -/
theorem required_iff {a : α} :
    (Fields.required index name d).run (Fields.membersOf origin record size members) = .ok a ↔
      ∃ v, members.lookup name = some v ∧ d origin v.toReading = .ok a := by
  rw [Fields.required, Fields.field_members_iff keyed]
  simp

theorem requiredString_iff {s : String} :
    (Fields.required index name decodeString).run (Fields.membersOf origin record size members) =
      .ok s ↔ members.lookup name = some (.string s) := by
  rw [required_iff keyed]
  simp only [Json.decodeString_iff, exists_eq_right]

theorem requiredUInt64_iff {n : UInt64} :
    (Fields.required index name Json.decodeUInt64).run
        (Fields.membersOf origin record size members) = .ok n ↔
      members.lookup name = some (.uint64 n) := by
  rw [required_iff keyed]
  simp only [decodeUInt64_iff, exists_eq_right]

theorem requiredEntity_iff {kind : EntityKind} {id : EntityId kind} :
    (Fields.required index name EntityId.decode).run (Fields.membersOf origin record size members) =
      .ok id ↔ ∃ v, members.lookup name = some v ∧ Identifies v id := by
  rw [required_iff keyed]
  simp only [decodeEntity_iff]

/-- A member that may be missing or `null` is read of what is offered under its name. -/
theorem offers_iff {whenShort : Option (Option α)} {o : Option α}
    (solid : ∀ a, d origin .null ≠ .ok a) :
    (Fields.field index name (Json.decodeOption d) (some none) whenShort).run
        (Fields.membersOf origin record size members) = .ok o ↔
      Offers members name (fun v a => d origin v.toReading = .ok a) o := by
  rw [Fields.field_members_iff keyed]
  cases stands : members.lookup name with
  | none => cases o <;> simp [Offers, stands]
  | some v =>
      by_cases nothing : v = .null
      · subst nothing
        cases o with
        | none => simp [Offers, stands, toReading, Json.decodeOption]
        | some a => simp [Offers, stands, toReading, Json.decodeOption, solid]
      · cases o <;> simp [Offers, stands, nothing, Json.decodeOption_of_ne_null, Json.map_eq_ok]

/-- A text that may be missing is the one that the members offer, or none. -/
theorem omissibleString_iff {s : Option String} :
    (Fields.omissible index name decodeString).run (Fields.membersOf origin record size members) =
      .ok s ↔ Offers members name (fun v s => v = .string s) s := by
  rw [Fields.omissible, offers_iff keyed nofun]
  simp only [Json.decodeString_iff]

theorem omissibleEntity_iff {kind : EntityKind} {id : Option (EntityId kind)} :
    (Fields.omissible index name EntityId.decode).run
      (Fields.membersOf origin record size members) = .ok id ↔
        Offers members name Identifies id := by
  rw [Fields.omissible, offers_iff keyed nofun]
  simp only [decodeEntity_iff]

theorem lists_iff {as : List α} :
    (Fields.defaulted index name (decodeList d) []).run
        (Fields.membersOf origin record size members) = .ok as ↔
      Lists members name (fun item a => d origin item.toReading = .ok a) as := by
  rw [Fields.defaulted, Fields.field_members_iff keyed, Lists]
  refine or_congr (and_congr_right fun _ => by simp [eq_comm]) ?_
  constructor
  · rintro ⟨v, stands, decoded⟩
    cases v with
    | array items => exact ⟨items, stands, Json.decodeList_iff.1 decoded⟩
    | _ => cases decoded
  · rintro ⟨items, stands, each⟩
    exact ⟨_, stands, Json.decodeList_iff.2 each⟩

end

/-! ### Balances -/

section

variable {origin : Origin} {members : List (String × Json)}

/-- An entry names a token and its balance. -/
theorem TokenBalance.decode_iff (keyed : Keyed (.object members)) {b : TokenBalance} :
    decode origin (toReading (.object members)) = .ok b ↔
      (∃ v, members.lookup "token_id" = some v ∧ Identifies v b.token) ∧
        members.lookup "balance" = some (.uint64 b.balance) := by
  rw [decode, Json.record_object_iff]
  constructor
  · intro made
    obtain ⟨_, balance, front, counted, rfl⟩ := Fields.seq_eq_ok.1 made
    obtain ⟨token, owned, rfl⟩ := Fields.map_run_eq_ok.1 front
    exact ⟨(requiredEntity_iff keyed).1 owned, (requiredUInt64_iff keyed).1 counted⟩
  · rintro ⟨owned, counted⟩
    refine Fields.seq_eq_ok.2 ⟨_, b.balance, Fields.map_run_eq_ok.2 ⟨b.token, ?_, rfl⟩, ?_, rfl⟩
    · exact (requiredEntity_iff keyed).2 owned
    · exact (requiredUInt64_iff keyed).2 counted

/-- An account has a balance of its own, and a list of entries for its tokens. -/
theorem AccountBalance.decode_iff (keyed : Keyed (.object members)) {a : AccountBalance} :
    decode origin (toReading (.object members)) = .ok a ↔
      members.lookup "balance" = some (.uint64 a.balance) ∧
        Lists members "tokens" (fun item b => TokenBalance.decode origin item.toReading = .ok b)
          a.tokens := by
  rw [decode, Json.record_object_iff]
  constructor
  · intro made
    obtain ⟨_, tokens, front, listed, rfl⟩ := Fields.seq_eq_ok.1 made
    obtain ⟨balance, counted, rfl⟩ := Fields.map_run_eq_ok.1 front
    exact ⟨(requiredUInt64_iff keyed).1 counted, (lists_iff keyed).1 listed⟩
  · rintro ⟨counted, listed⟩
    refine Fields.seq_eq_ok.2 ⟨_, a.tokens, Fields.map_run_eq_ok.2 ⟨a.balance, ?_, rfl⟩, ?_, rfl⟩
    · exact (requiredUInt64_iff keyed).2 counted
    · exact (lists_iff keyed).2 listed

/-- The link to the next page is a text, or there is none. -/
theorem decodeLinks_iff (keyed : Keyed (.object members)) {next : Option String} :
    decodeLinks origin (toReading (.object members)) = .ok next ↔
      Offers members "next" (fun v link => v = .string link) next := by
  rw [decodeLinks, Json.record_object_iff, Fields.optional, offers_iff keyed nofun]
  simp only [Json.decodeString_iff]

/-- A page has a list of items under a name of its own, and its links under `links`. -/
theorem Page.decode_iff {α : Type} {name member : String} {item : Decoder α}
    (keyed : Keyed (.object members)) {page : Page α} :
    Page.decode name member item origin (toReading (.object members)) = .ok page ↔
      Lists members member (fun v a => item origin v.toReading = .ok a) page.items ∧
        ((members.lookup "links" = none ∧ page.next = none) ∨
          ∃ v, members.lookup "links" = some v ∧
            decodeLinks origin v.toReading = .ok page.next) := by
  rw [decode, Json.record_object_iff]
  constructor
  · intro made
    obtain ⟨_, next, front, linked, rfl⟩ := Fields.seq_eq_ok.1 made
    obtain ⟨items, listed, rfl⟩ := Fields.map_run_eq_ok.1 front
    refine ⟨(lists_iff keyed).1 listed, ?_⟩
    exact ((Fields.field_members_iff keyed).1 linked).imp_left (And.imp_right (by simp [eq_comm]))
  · rintro ⟨listed, linked⟩
    refine Fields.seq_eq_ok.2 ⟨_, page.next, Fields.map_run_eq_ok.2 ⟨page.items, ?_, rfl⟩, ?_, rfl⟩
    · exact (lists_iff keyed).2 listed
    · exact (Fields.field_members_iff keyed).2
        (linked.imp_left (And.imp_right (by simp [eq_comm])))

end

/-! ### Details of a token -/

/-- Members tell the details of a token: each under a name of its own, the name and the symbol
apart from each other, and the decimals as a text. -/
structure TokenDetails.Told (members : List (String × Json)) (details : TokenDetails) : Prop where
  token : ∃ v, members.lookup "token_id" = some v ∧ Identifies v details.token
  name : members.lookup "name" = some (.string details.name)
  symbol : members.lookup "symbol" = some (.string details.symbol)
  decimals : members.lookup "decimals" = some (.string details.decimalsText)
  tokenType : Offers members "type" (fun v s => v = .string s) details.tokenType
  totalSupply : Offers members "total_supply" (fun v s => v = .string s) details.totalSupply
  maxSupply : Offers members "max_supply" (fun v s => v = .string s) details.maxSupply
  treasury : Offers members "treasury_account_id" Identifies details.treasury
  memo : Offers members "memo" (fun v s => v = .string s) details.memo

section

variable {origin : Origin} {members : List (String × Json)} (keyed : Keyed (.object members))

include keyed

/-- The details of a token are decoded of an object exactly if its members tell them. -/
theorem TokenDetails.decode_iff {details : TokenDetails} :
    decode origin (toReading (.object members)) = .ok details ↔ details.Told members := by
  rw [decode, Json.record_object_iff]
  constructor
  · intro made
    obtain ⟨_, _, made₇, memo, rfl⟩ := Fields.seq_eq_ok.1 made
    obtain ⟨_, _, made₆, treasury, rfl⟩ := Fields.seq_eq_ok.1 made₇
    obtain ⟨_, _, made₅, maxSupply, rfl⟩ := Fields.seq_eq_ok.1 made₆
    obtain ⟨_, _, made₄, totalSupply, rfl⟩ := Fields.seq_eq_ok.1 made₅
    obtain ⟨_, _, made₃, tokenType, rfl⟩ := Fields.seq_eq_ok.1 made₄
    obtain ⟨_, _, made₂, decimals, rfl⟩ := Fields.seq_eq_ok.1 made₃
    obtain ⟨_, _, made₁, symbol, rfl⟩ := Fields.seq_eq_ok.1 made₂
    obtain ⟨_, _, made₀, name, rfl⟩ := Fields.seq_eq_ok.1 made₁
    obtain ⟨_, token, rfl⟩ := Fields.map_run_eq_ok.1 made₀
    exact {
      token := (requiredEntity_iff keyed).1 token
      name := (requiredString_iff keyed).1 name
      symbol := (requiredString_iff keyed).1 symbol
      decimals := (requiredString_iff keyed).1 decimals
      tokenType := (omissibleString_iff keyed).1 tokenType
      totalSupply := (omissibleString_iff keyed).1 totalSupply
      maxSupply := (omissibleString_iff keyed).1 maxSupply
      treasury := (omissibleEntity_iff keyed).1 treasury
      memo := (omissibleString_iff keyed).1 memo }
  · intro told
    obtain ⟨_, _, _, _, _, _, _, _, _⟩ := details
    refine Fields.seq_eq_ok.2 ⟨_, _, ?_, (omissibleString_iff keyed).2 told.memo, rfl⟩
    refine Fields.seq_eq_ok.2 ⟨_, _, ?_, (omissibleEntity_iff keyed).2 told.treasury, rfl⟩
    refine Fields.seq_eq_ok.2 ⟨_, _, ?_, (omissibleString_iff keyed).2 told.maxSupply, rfl⟩
    refine Fields.seq_eq_ok.2 ⟨_, _, ?_, (omissibleString_iff keyed).2 told.totalSupply, rfl⟩
    refine Fields.seq_eq_ok.2 ⟨_, _, ?_, (omissibleString_iff keyed).2 told.tokenType, rfl⟩
    refine Fields.seq_eq_ok.2 ⟨_, _, ?_, (requiredString_iff keyed).2 told.decimals, rfl⟩
    refine Fields.seq_eq_ok.2 ⟨_, _, ?_, (requiredString_iff keyed).2 told.symbol, rfl⟩
    refine Fields.seq_eq_ok.2 ⟨_, _, ?_, (requiredString_iff keyed).2 told.name, rfl⟩
    exact Fields.map_run_eq_ok.2 ⟨_, (requiredEntity_iff keyed).2 told.token, rfl⟩

end

/-- The decimals of a token's details are a number: but for white space around it, their text is
a natural number that a word of 32 bits can hold. -/
def TokenDetails.Counts (details : TokenDetails) (n : UInt32) : Prop :=
  Unsigned (trimmed details.decimalsText.toList) n.toNat

/-- The decimals are a number exactly if their text counts one. -/
theorem TokenDetails.decimals_eq_ok_iff {details : TokenDetails} {n : UInt32} :
    details.decimals = .ok n ↔ details.Counts n := by
  rw [decimals, Json.mapError_eq_ok, uint32_eq_ok_iff, Counts]

/-- Decimals that are no number are complained of. -/
theorem TokenDetails.decimals_of_not_counts {details : TokenDetails}
    (nonNumeric : ∀ n, ¬ details.Counts n) :
    details.decimals = .error (.decode
      s!"token {details.token.toText} has non-numeric decimals `{details.decimalsText}`") := by
  cases read : uint32 (trimmed details.decimalsText.toList) with
  | error e =>
      rw [decimals, read]
      rfl
  | ok n => exact absurd (uint32_eq_ok_iff.1 read) (nonNumeric n)

/-! ### Replies -/

section

variable {outside : Outside} {before : List HttpRequest} {url : Url} {status : Nat} {text : String}
  (answered : url.answer outside before = .reply status (Text.bytes text))
  (success : isSuccessStatus status = true)

include answered success

/-- What stands at a URL is what is decoded of the value in the reply's text, however that is
spelled. -/
theorem fetched_iff {α : Type} {d : Decoder α} {v : Json} {a : α}
    (said : Json.read text = ⟨v.toReading, none⟩) :
    fetched d outside before url = .ok a ↔ d .text v.toReading = .ok a := by
  rw [fetched, answered, readReply, success, Bool.not_true, if_neg Bool.false_ne_true,
    Json.mapError_eq_ok, Json.decodeBytes_bytes, Json.decodeText, said, Json.Document.decode,
    Json.bind_eq_ok]
  constructor
  · rintro ⟨_, decoded, ⟨⟩⟩
    exact decoded
  · intro decoded
    exact ⟨a, decoded, rfl⟩

variable {members : List (String × Json)} (keyed : Keyed (.object members))
  (said : Json.read text = ⟨toReading (.object members), none⟩)

include keyed said

/-- The details of a token are those that the members of the reply tell. -/
theorem fetched_tokenDetails_iff {details : TokenDetails} :
    fetched TokenDetails.decode outside before url = .ok details ↔ details.Told members :=
  (fetched_iff answered success said).trans (TokenDetails.decode_iff keyed)

/-- The accounts on a page of balances are those that the reply lists under `balances`. -/
theorem fetched_balancesPage_iff {page : Page AccountBalance} :
    fetched balancesPage outside before url = .ok page ↔
      Lists members "balances"
          (fun v a => AccountBalance.decode .text v.toReading = .ok a) page.items ∧
        ((members.lookup "links" = none ∧ page.next = none) ∨
          ∃ v, members.lookup "links" = some v ∧ decodeLinks .text v.toReading = .ok page.next) :=
  (fetched_iff answered success said).trans (Page.decode_iff keyed)

end

end MirrorNode

end LedgerAgent
