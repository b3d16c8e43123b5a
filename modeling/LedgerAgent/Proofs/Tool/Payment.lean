/-
Module: LedgerAgent.Proofs.Tool.Payment
Purpose: The tools that move or allow an amount: what their input asks for, and which action
  they settle on.
Main exports: LedgerTool.Asks, Kit.Reports, Kit.ends_tokenDecimals, Kit.reports_token_iff,
  LedgerTool.Pays, LedgerTool.Settles
-/
import LedgerAgent.Proofs.Amount
import LedgerAgent.Proofs.MirrorNode.Reply
import LedgerAgent.Proofs.Tool.Parameters
import LedgerAgent.Proofs.Tool.Submission

namespace LedgerAgent

open Json

/-! ### What is asked for -/

namespace Parameters

/-- A member names an entity. -/
def Names {kind : EntityKind} (members : List (String × Json)) (key : String)
    (id : EntityId kind) : Prop :=
  ∃ text, members.lookup key = some (.string text) ∧ EntityId.parse text = .ok id

/-- A member is missing or counts as nothing. -/
def Lacks (members : List (String × Json)) (key : String) : Prop :=
  (members.lookup key).filter isGiven = none

/-- The text that a value gives for an amount: a string as it stands, a number written out
in full. -/
inductive Spelled : Json → String → Prop where
  | text (s : String) : Spelled (.string s) s
  | number (n : Number) : Spelled (.number n) n.plain

end Parameters

open Parameters (Names Lacks Spelled)

/-- The members ask a tool to move or allow something: of the ledger's own currency or of a
token, and to whom. -/
inductive LedgerTool.Asks (members : List (String × Json)) :
    LedgerTool → Option TokenId → AccountId → Prop where
  | hbarTransfer {recipient : AccountId} (payee : Names members "toAccountId" recipient) :
      Asks members .transferHbar none recipient
  | tokenTransfer {token : TokenId} {recipient : AccountId} (asset : Names members "tokenId" token)
      (payee : Names members "toAccountId" recipient) :
      Asks members .transferToken (some token) recipient
  | hbarAllowance {spender : AccountId} (asset : Lacks members "tokenId")
      (payee : Names members "spenderAccountId" spender) :
      Asks members .approveAllowance none spender
  | tokenAllowance {token : TokenId} {spender : AccountId} (asset : Names members "tokenId" token)
      (payee : Names members "spenderAccountId" spender) :
      Asks members .approveAllowance (some token) spender

/-- The decimal places that amounts of an asset are counted with: those of the ledger's own
currency, or of a token those that the mirror node answers with, in a reply that holds the details
of a token with a number for its decimals. -/
inductive Kit.Reports (kit : Kit) (outside : Outside) (wire : Wire) :
    Option TokenId → UInt32 → Prop where
  | currency : Reports kit outside wire none Amount.hbarDecimals
  | token {token : TokenId} {url : Url} {details : MirrorNode.TokenDetails} {decimals : UInt32}
      (located : kit.mirror.resolve s!"/api/v1/tokens/{token.toText}" = .ok url)
      (read : MirrorNode.fetched MirrorNode.TokenDetails.decode outside wire.requests url =
        .ok details)
      (numeric : details.Counts decimals) : Reports kit outside wire (some token) decimals

/-- The action of a tool that moves or allows units of an asset. -/
inductive LedgerTool.Pays : LedgerTool → Option TokenId → AccountId → UInt64 → Action → Prop where
  | hbarTransfer {recipient : AccountId} {units : UInt64} :
      Pays .transferHbar none recipient units (.transferHbar recipient ⟨units⟩)
  | tokenTransfer {token : TokenId} {recipient : AccountId} {units : UInt64} :
      Pays .transferToken (some token) recipient units (.transferToken token recipient units)
  | allowance {asset : Option TokenId} {spender : AccountId} {units : UInt64} :
      Pays .approveAllowance asset spender units (.approveAllowance spender units asset)

/-- The tools that move or allow an amount. -/
def LedgerTool.isPayment : LedgerTool → Bool
  | .transferHbar | .transferToken | .approveAllowance => true
  | _ => false

/-! ### What the mirror node reports -/

theorem fst_ofMirror {α : Type} (x : Exchange (Except MirrorNodeError α)) {outside : Outside}
    {wire : Wire} :
    ((Query.ofMirror x).run outside wire).1 = (x outside wire).1.mapError KitError.mirrorNode :=
  rfl

/-- A query of the mirror node ends as the exchange does, its error the kit's. -/
theorem ends_ofMirror {α : Type} {x : Exchange (Except MirrorNodeError α)} {outside : Outside}
    {wire : Wire} {Q : Except KitError α → Wire → Prop} :
    Ends outside (Query.ofMirror x).run wire Q ↔
      Ends outside x wire fun result after => Q (result.mapError KitError.mirrorNode) after :=
  Iff.rfl

namespace Kit

variable {kit : Kit} {outside : Outside} {wire : Wire} {token : TokenId} {decimals : UInt32}

/-- A token's decimals are reported by the details that are fetched for it. -/
theorem reports_some_iff :
    kit.Reports outside wire (some token) decimals ↔ ∃ url details,
      kit.mirror.resolve s!"/api/v1/tokens/{token.toText}" = .ok url ∧
      MirrorNode.fetched MirrorNode.TokenDetails.decode outside wire.requests url = .ok details ∧
      details.Counts decimals := by
  constructor
  · intro reported
    cases reported with
    | token located read numeric => exact ⟨_, _, located, read, numeric⟩
  · rintro ⟨_, _, located, read, numeric⟩
    exact .token located read numeric

/-- A kit is told a token's decimals exactly if the mirror node reports them, and it asks for the
token's details only, once. -/
theorem ends_tokenDecimals (kit : Kit) (token : TokenId) (outside : Outside) (wire : Wire) :
    Ends outside (kit.tokenDecimals token).run wire fun result after =>
      (∀ decimals, result = .ok decimals ↔ kit.Reports outside wire (some token) decimals) ∧
        ∀ url, kit.mirror.resolve s!"/api/v1/tokens/{token.toText}" = .ok url →
          after.requests = url.asking wire.requests := by
  simp only [reports_some_iff]
  rw [tokenDecimals, ends_run_bind, tokenDetails, ends_ofMirror, MirrorNode.tokenDetails]
  cases located : kit.mirror.resolve s!"/api/v1/tokens/{token.toText}" with
  | error e =>
      refine ⟨fun decimals => ⟨?_, ?_⟩, ?_⟩
      · intro told
        cases told
      · rintro ⟨_, _, located', -⟩
        cases located'
      · intro _ located'
        cases located'
  | ok url =>
      refine MirrorNode.ends_fetch fun after asked => ?_
      cases read : MirrorNode.fetched MirrorNode.TokenDetails.decode outside wire.requests url with
      | error e =>
          refine ⟨fun decimals => ⟨nofun, ?_⟩, ?_⟩
          · rintro ⟨_, _, ⟨⟩, read', -⟩
            cases read.symm.trans read'
          · rintro _ ⟨⟩
            exact asked
      | ok details =>
          refine ⟨fun decimals => ?_, ?_⟩
          · have counted : (details.decimals.mapError KitError.mirrorNode = .ok decimals) ↔
                details.Counts decimals := by
              rw [mapError_eq_ok, MirrorNode.TokenDetails.decimals_eq_ok_iff]
            refine counted.trans ⟨fun numeric => ⟨_, _, rfl, read, numeric⟩, ?_⟩
            rintro ⟨_, _, ⟨⟩, read', numeric⟩
            cases read.symm.trans read'
            exact numeric
          · rintro _ ⟨⟩
            exact asked

/-- What the mirror node reports of a token is what the kit is told when it asks. -/
theorem reports_token_iff :
    kit.Reports outside wire (some token) decimals ↔
      ((kit.tokenDecimals token).run outside wire).1 = .ok decimals :=
  ((kit.ends_tokenDecimals token outside wire).1 decimals).symm

end Kit

/-! ### Reading it -/

namespace Parameters

variable {input : String} {raw members : List (String × Json)}

/-- A recipient is read of an item exactly if its account is read of what stands for the account,
and its amount of what stands for the amount, if anything does. -/
theorem decodeRecipient_eq_ok_iff {item : Json} (keyed : item.Keyed) {account : AccountId}
    {amount : Option String} :
    LedgerTool.recipientDecoder .value item.toReading = .ok (account, amount) ↔
      (∃ v, item.part? 2 0 "accountId" = some v ∧
        EntityId.decode .value v.toReading = .ok account) ∧
      ((item.part? 2 1 "amount" = none ∧ some none = some amount) ∨
        ∃ v, item.part? 2 1 "amount" = some v ∧
          Parameters.decodeAmount .value v.toReading = .ok amount) := by
  rw [LedgerTool.recipientDecoder, record_value_iff]
  constructor
  · rintro ⟨parts, shape, made⟩
    obtain ⟨named, counted⟩ := Fields.pair_eq_ok_iff.1 made
    obtain ⟨-, ⟨⟩⟩ | account := (Fields.field_value_iff keyed shape).1 named
    exact ⟨account, (Fields.field_value_iff keyed shape).1 counted⟩
  · rintro ⟨⟨v, stands, named⟩, counted⟩
    obtain ⟨parts, shape⟩ := exists_recordParts? stands "struct RecipientParams"
    refine ⟨parts, shape, Fields.pair_eq_ok_iff.2 ⟨?_, ?_⟩⟩
    · exact (Fields.field_value_iff keyed shape).2 (.inr ⟨v, stands, named⟩)
    · exact (Fields.field_value_iff keyed shape).2 counted

/-- What is found among the members that count stands in the text. -/
theorem lookup_of_given (object : Json.parse (Text.trim input) = .ok (.object raw))
    (counted : given input = .ok members) (key : String) :
    members.lookup key = (raw.lookup key).filter isGiven := by
  rw [given_of_parse object, Except.ok.injEq] at counted
  rw [← counted, lookup_filter (nodup_of_parse object)]

/-- A required entity that is read is named by a member. -/
theorem names_of_field {kind : EntityKind} {index size : Nat} {key record : String}
    {id : EntityId kind} (object : Json.parse (Text.trim input) = .ok (.object raw))
    (counted : given input = .ok members)
    (taken : (Fields.required index key EntityId.decode).run (Fields.partsOf record size members) =
      .ok id) : Names raw key id := by
  obtain ⟨-, ⟨⟩⟩ | ⟨v, stands, decoded⟩ := Fields.field_eq_ok taken
  rw [lookup_of_given object counted, Option.filter_eq_some_iff] at stands
  obtain ⟨text, rfl, parsed⟩ := EntityId.string_of_decode decoded
  exact ⟨text, stands.1, parsed⟩

/-- An optional entity that is read is named by a member or lacks one. -/
theorem names_or_lacks_of_field {kind : EntityKind} {index size : Nat} {key record : String}
    {id : Option (EntityId kind)} (object : Json.parse (Text.trim input) = .ok (.object raw))
    (counted : given input = .ok members)
    (taken : (Fields.optional index key EntityId.decode).run (Fields.partsOf record size members) =
      .ok id) :
    (id = none ∧ Lacks raw key) ∨ ∃ named, id = some named ∧ Names raw key named := by
  obtain ⟨absent, ⟨⟩⟩ | ⟨v, stands, decoded⟩ := Fields.field_eq_ok taken
  · rw [lookup_of_given object counted] at absent
    exact .inl ⟨rfl, absent⟩
  · rw [lookup_of_given object counted, Option.filter_eq_some_iff] at stands
    by_cases nothing : v = .null
    · rw [nothing] at stands
      cases stands.2
    · rw [decodeOption_of_ne_null nothing] at decoded
      obtain ⟨named, made, rfl⟩ := map_eq_ok.1 decoded
      obtain ⟨text, rfl, parsed⟩ := EntityId.string_of_decode made
      exact .inr ⟨named, rfl, text, stands.1, parsed⟩

/-- An amount that is read is spelled by a member, up to the white space around it. -/
theorem spelled_of_field {index size : Nat} {record : String} {amount : String}
    (object : Json.parse (Text.trim input) = .ok (.object raw))
    (counted : given input = .ok members)
    (taken : (Fields.defaulted index "amount" decodeAmount none).run
      (Fields.partsOf record size members) = .ok (some amount)) :
    ∃ value text, raw.lookup "amount" = some value ∧ Spelled value text ∧
      Text.trimmed amount.toList = Text.trimmed text.toList := by
  obtain ⟨-, ⟨⟩⟩ | ⟨v, stands, decoded⟩ := Fields.field_eq_ok taken
  rw [lookup_of_given object counted, Option.filter_eq_some_iff] at stands
  obtain ⟨w, same, spelled⟩ := bind_eq_ok.1 decoded
  obtain ⟨-, rfl⟩ := Reading.toJson_eq_ok_iff.1 (mapError_eq_ok.1 same)
  cases v with
  | null | bool b | array items | object members => cases spelled
  | number n =>
      cases spelled
      exact ⟨_, _, stands.1, .number n, rfl⟩
  | string s =>
      cases spelled
      refine ⟨_, _, stands.1, .text s, ?_⟩
      exact Text.trimmed_trim _

end Parameters

/-- White space around an amount does not count. -/
theorem Amount.toBaseUnits_congr {text text' : String} (decimals : UInt32)
    (same : Text.trimmed text.toList = Text.trimmed text'.toList) :
    Amount.toBaseUnits text decimals = Amount.toBaseUnits text' decimals := by
  rw [toBaseUnits, toBaseUnits, same]

namespace LedgerTool

variable {tool : LedgerTool} {kit : Kit} {input : String} {raw : List (String × Json)}
  {outside : Outside} {wire : Wire}

/-- What a payment's action rests on: the parties and the asset that the members name, and
the units of the amount at the decimal places of the asset. -/
def Settles (tool : LedgerTool) (kit : Kit) (raw : List (String × Json)) (outside : Outside)
    (wire : Wire) (action : Action) : Prop :=
  ∃ value text asset party decimals units,
    raw.lookup "amount" = some value ∧ Spelled value text ∧ Asks raw tool asset party ∧
      kit.Reports outside wire asset decimals ∧
      Amount.toBaseUnits text decimals = .ok units ∧ Pays tool asset party units action

theorem settles_transferHbar {prepare : Lookup Action} {action : Action}
    (object : Json.parse (Text.trim input) = .ok (.object raw))
    (asked : LedgerTool.transferHbar.request kit input = .ok (.change prepare))
    (settled : (prepare.run outside wire).1 = .ok action) :
    LedgerTool.transferHbar.Settles kit raw outside wire action := by
  obtain ⟨⟨recipient, amount?⟩, read, needing⟩ := bind_eq_ok.1 asked
  obtain ⟨amount, required, asking⟩ := bind_eq_ok.1 needing
  obtain ⟨members, counted, taken⟩ := Parameters.read_eq_ok_iff.1 read
  obtain ⟨_, _, first, spelled, same⟩ := Fields.seq_eq_ok.1 taken
  obtain ⟨_, named, rfl⟩ := Fields.map_run_eq_ok.1 first
  cases same
  cases amount? with
  | none => cases required
  | some _ =>
      cases required
      obtain ⟨value, text, stands, spelled, same⟩ :=
        Parameters.spelled_of_field object counted spelled
      split at asking
      · cases asking
      · rename_i displayed
        cases asking
        cases settled
        obtain ⟨units, counting, rfl⟩ := map_eq_ok.1 displayed
        rw [Amount.toBaseUnits_congr _ same] at counting
        exact ⟨value, text, none, recipient, _, units, stands, spelled,
          .hbarTransfer (Parameters.names_of_field object counted named), .currency, counting,
          .hbarTransfer⟩

/-- A query gives the same within a lookup, its error the tool's. -/
theorem fst_inLookup {α : Type} (q : Query α) :
    (q.inLookup.run outside wire).1 = (q.run outside wire).1.mapError ToolError.kit :=
  rfl

theorem snd_inLookup {α : Type} (q : Query α) :
    (q.inLookup.run outside wire).2 = (q.run outside wire).2 :=
  rfl

theorem fst_ofAmount {α : Type} (x : Except AmountError α) :
    ((Query.ofAmount x).run outside wire).1 = x.mapError KitError.amount :=
  rfl

/-- Units of a token are counted with the decimal places that the mirror node reports. -/
theorem reports_of_tokenUnits {token : TokenId} {amount : String} {units : UInt64}
    (counted : ((kit.tokenUnits token amount).inLookup.run outside wire).1 = .ok units) :
    ∃ decimals, kit.Reports outside wire (some token) decimals ∧
      Amount.toBaseUnits amount decimals = .ok units := by
  rw [fst_inLookup, mapError_eq_ok, Kit.tokenUnits] at counted
  obtain ⟨decimals, reported, counted⟩ := run_bind_eq_ok counted
  rw [fst_ofAmount, mapError_eq_ok] at counted
  exact ⟨decimals, Kit.reports_token_iff.2 reported, counted⟩

/-- Units of a token are counted with the decimals that the mirror node reports, or not at all. -/
theorem tokenUnits_of_reports {token : TokenId} {decimals : UInt32} (amount : String)
    (reported : kit.Reports outside wire (some token) decimals) :
    ((kit.tokenUnits token amount).run outside wire).1 =
      (Amount.toBaseUnits amount decimals).mapError KitError.amount := by
  have course : Ends outside (kit.tokenUnits token amount).run wire fun result _ =>
      result = (Amount.toBaseUnits amount decimals).mapError KitError.amount := by
    rw [Kit.reports_token_iff] at reported
    rw [Kit.tokenUnits, ends_run_bind, Ends, reported]
    exact fst_ofAmount _
  exact course

/-- Units of an asset are counted with the decimals that are reported of it, or not at all. -/
theorem assetUnits_of_reports {asset : Option TokenId} {decimals : UInt32} (amount : String)
    (reported : kit.Reports outside wire asset decimals) :
    ((kit.assetUnits asset amount).run outside wire).1 =
      (Amount.toBaseUnits amount decimals).mapError KitError.amount := by
  cases asset with
  | none =>
      cases reported
      rw [Kit.assetUnits, fst_ofAmount]
  | some token => exact tokenUnits_of_reports amount reported

/-- A transfer of a token is settled by the token's decimals. -/
theorem settles_transferToken {prepare : Lookup Action} {action : Action}
    (object : Json.parse (Text.trim input) = .ok (.object raw))
    (asked : LedgerTool.transferToken.request kit input = .ok (.change prepare))
    (settled : (prepare.run outside wire).1 = .ok action) :
    LedgerTool.transferToken.Settles kit raw outside wire action := by
  obtain ⟨⟨token, recipient, amount?⟩, read, needing⟩ := bind_eq_ok.1 asked
  obtain ⟨amount, required, asking⟩ := bind_eq_ok.1 needing
  obtain ⟨members, counted, taken⟩ := Parameters.read_eq_ok_iff.1 read
  obtain ⟨_, _, front, spelled, same⟩ := Fields.seq_eq_ok.1 taken
  obtain ⟨_, _, first, named, rfl⟩ := Fields.seq_eq_ok.1 front
  obtain ⟨_, owned, rfl⟩ := Fields.map_run_eq_ok.1 first
  cases same
  cases amount? with
  | none => cases required
  | some _ =>
      cases required
      obtain rfl := Request.change.inj (Except.ok.inj asking)
      obtain ⟨units, counting, made⟩ := run_bind_eq_ok settled
      obtain rfl := run_pure_eq_ok made
      obtain ⟨value, text, stands, spelled, same⟩ :=
        Parameters.spelled_of_field object counted spelled
      obtain ⟨decimals, reported, counting⟩ := reports_of_tokenUnits counting
      rw [Amount.toBaseUnits_congr _ same] at counting
      exact ⟨value, text, some token, recipient, decimals, units, stands, spelled,
        .tokenTransfer (Parameters.names_of_field object counted owned)
          (Parameters.names_of_field object counted named), reported, counting, .tokenTransfer⟩

/-- An allowance is settled by the decimals of its asset. -/
theorem settles_approveAllowance {prepare : Lookup Action} {action : Action}
    (object : Json.parse (Text.trim input) = .ok (.object raw))
    (asked : LedgerTool.approveAllowance.request kit input = .ok (.change prepare))
    (settled : (prepare.run outside wire).1 = .ok action) :
    LedgerTool.approveAllowance.Settles kit raw outside wire action := by
  obtain ⟨⟨spender, amount?, asset⟩, read, needing⟩ := bind_eq_ok.1 asked
  obtain ⟨amount, required, asking⟩ := bind_eq_ok.1 needing
  obtain ⟨members, counted, taken⟩ := Parameters.read_eq_ok_iff.1 read
  obtain ⟨_, _, front, owned, same⟩ := Fields.seq_eq_ok.1 taken
  obtain ⟨_, _, first, spelled, rfl⟩ := Fields.seq_eq_ok.1 front
  obtain ⟨_, named, rfl⟩ := Fields.map_run_eq_ok.1 first
  cases same
  cases amount? with
  | none => cases required
  | some _ =>
      cases required
      obtain rfl := Request.change.inj (Except.ok.inj asking)
      obtain ⟨units, counting, made⟩ := run_bind_eq_ok settled
      obtain rfl := run_pure_eq_ok made
      obtain ⟨value, text, stands, spelled, same⟩ :=
        Parameters.spelled_of_field object counted spelled
      have payee := Parameters.names_of_field object counted named
      obtain ⟨rfl, lacking⟩ | ⟨token, rfl, asset⟩ :=
        Parameters.names_or_lacks_of_field object counted owned
      · rw [Kit.assetUnits, fst_inLookup, mapError_eq_ok, fst_ofAmount, mapError_eq_ok,
          Amount.toBaseUnits_congr _ same] at counting
        exact ⟨value, text, none, spender, _, units, stands, spelled,
          .hbarAllowance lacking payee, .currency, counting, .allowance⟩
      · obtain ⟨decimals, reported, counting⟩ := reports_of_tokenUnits counting
        rw [Amount.toBaseUnits_congr _ same] at counting
        exact ⟨value, text, some token, spender, decimals, units, stands, spelled,
          .tokenAllowance asset payee, reported, counting, .allowance⟩

end LedgerTool

end LedgerAgent
