/-
Module: LedgerAgent.Proofs.Tool.Unparsable
Purpose: Amounts that are no numerals: every tool that takes an amount as people write it answers
  them with an error, and which code the error has.
Main exports: Amount.Unparsable, LedgerTool.Writes, LedgerTool.unparsable_call
-/
import LedgerAgent.Proofs.Amount.Judgement
import LedgerAgent.Proofs.Tool.Airdrop
import LedgerAgent.Proofs.Tool.Refusal

namespace LedgerAgent

open Json (Fields bind_eq_ok bind_eq_error)
open Parameters (Names Lacks Payee SpellsAmount Decodes)

/-! ### Amounts as they are written -/

/-- A text is something, but no numeral stands in it, white space around it or not. -/
structure Amount.Unparsable (text : String) : Prop where
  something : text ≠ ""
  shapeless : ∀ whole fraction, ¬ Amount.Spells (Text.trimmed text.toList) whole fraction

/-- An item names an account and has an amount, whatever that is worth. -/
structure Parameters.Complete (item : Json) : Prop where
  payee : ∃ account, Payee item account
  amount : ∃ v, item.part? 2 1 "amount" = some v ∧ v ≠ .null ∧ SpellsAmount v

/-- The members give a tool all that it takes, and a text as an amount of an asset: of what is to
be moved or allowed, of what one of the recipients is to get, or of what a holder must have. -/
inductive LedgerTool.Writes (raw : List (String × Json)) :
    LedgerTool → Option TokenId → String → Prop where
  | payment {tool : LedgerTool} {asset : Option TokenId} {party : AccountId} {text : String}
      (asks : Asks raw tool asset party) (amount : raw.lookup "amount" = some (.string text)) :
      Writes raw tool asset text
  | airdrop {token : TokenId} {items : List Json} {item : Json} {text : String}
      (named : Names raw "tokenId" token)
      (listed : raw.lookup "recipients" = some (.array items))
      (complete : ∀ item ∈ items, Parameters.Complete item) (among : item ∈ items)
      (amount : item.part? 2 1 "amount" = some (.string text)) :
      Writes raw .airdropToken (some token) text
  | threshold {token : TokenId} {text : String} (named : Names raw "tokenId" token)
      (amount : raw.lookup "threshold" = some (.string text)) :
      Writes raw .tokenHolders (some token) text

/-- The code with which a tool answers an amount that is no numeral.  Two tools take the fault for
one of their own parameters, and the others leave it to the kit. -/
def LedgerTool.amountFaultCode : LedgerTool → String
  | .transferHbar | .airdropToken => "INVALID_PARAMETER"
  | _ => "INVALID_AMOUNT"

/-- An unparsable amount is refused, white space around it or not. -/
theorem Amount.Unparsable.toBaseUnits {text amount : String} {decimals : UInt32}
    (unparsable : Unparsable text) (same : Text.trimmed amount.toList = Text.trimmed text.toList)
    (supported : decimals.toNat ≤ 18) :
    Amount.toBaseUnits amount decimals = .error (.invalidFormat (Text.trim text)) := by
  rw [Amount.toBaseUnits_congr decimals same, Amount.toBaseUnits_eq_iff]
  exact .shapeless supported unparsable.shapeless

theorem Amount.Unparsable.toBaseUnits_trim {text : String} {decimals : UInt32}
    (unparsable : Unparsable text) (supported : decimals.toNat ≤ 18) :
    Amount.toBaseUnits (Text.trim text) decimals = .error (.invalidFormat (Text.trim text)) := by
  apply unparsable.toBaseUnits _ supported
  exact Text.trimmed_trim _

/-! ### Reading the parameters -/

namespace Parameters

variable {input : String} {raw : List (String × Json)} {index size : Nat} {key record : String}
  (object : Json.parse (Text.trim input) = .ok (.object raw))

include object

/-- Among the members that count no key stands twice. -/
theorem keyed_given : Json.Keyed (.object (raw.filter fun m => isGiven m.2)) :=
  (nodup_of_parse object).sublist (List.filter_sublist.map Prod.fst)

theorem lookup_given (key : String) :
    (raw.filter fun m => isGiven m.2).lookup key = (raw.lookup key).filter isGiven :=
  lookup_of_given object (given_of_parse object) key

/-- An entity that a member names is read. -/
theorem field_of_names {kind : EntityKind} {id : EntityId kind} (names : Names raw key id) :
    (Fields.required index key EntityId.decode).run
      (Fields.partsOf record size (raw.filter fun m => isGiven m.2)) = .ok id := by
  obtain ⟨text, stands, parsed⟩ := lookup_of_names object (given_of_parse object) names
  rw [Fields.required, Fields.field_partsOf_iff (keyed_given object)]
  exact .inr ⟨_, stands, Json.reads_via parsed .value⟩

/-- An entity that may be missing is read where a member names it. -/
theorem optional_of_names {kind : EntityKind} {id : EntityId kind} (names : Names raw key id) :
    (Fields.optional index key (EntityId.decode : Json.Decoder (EntityId kind))).run
      (Fields.partsOf record size (raw.filter fun m => isGiven m.2)) = .ok (some id) := by
  obtain ⟨text, stands, parsed⟩ := lookup_of_names object (given_of_parse object) names
  rw [Fields.optional, Fields.field_partsOf_iff (keyed_given object)]
  refine .inr ⟨_, stands, ?_⟩
  rw [Json.decodeOption_of_ne_null (by simp)]
  exact Json.map_eq_ok.2 ⟨id, Json.reads_via parsed .value, rfl⟩

/-- Nothing is read where no member counts. -/
theorem optional_of_lacks {α : Type} {d : Json.Decoder α} (lacks : Lacks raw key) :
    (Fields.optional index key d).run
      (Fields.partsOf record size (raw.filter fun m => isGiven m.2)) = .ok none := by
  rw [Fields.optional, Fields.field_partsOf_iff (keyed_given object)]
  exact .inl ⟨(lookup_given object key).trans lacks, rfl⟩

/-- A text that is something is read as an amount, without the white space around it. -/
theorem field_of_text {text : String} (stands : raw.lookup key = some (.string text))
    (something : text ≠ "") :
    (Fields.defaulted index key decodeAmount none).run
      (Fields.partsOf record size (raw.filter fun m => isGiven m.2)) =
        .ok (some (Text.trim text)) := by
  have counts : isGiven (.string text) = true := by simpa [isGiven] using something
  rw [Fields.defaulted, Fields.field_partsOf_iff (keyed_given object)]
  refine .inr ⟨.string text, ?_, rfl⟩
  rw [lookup_given object key, stands, Option.filter_some_pos counts]

omit object in
/-- A complete item is read as a recipient with an amount. -/
theorem Complete.exists_decodes {item : Json} (complete : Complete item) (keyed : item.Keyed) :
    ∃ wanted : AccountId × String, Decodes item (wanted.1, some wanted.2) := by
  obtain ⟨⟨account, payee⟩, v, stands, something, spells⟩ := complete
  cases spells with
  | nothing => exact absurd rfl something
  | number n => exact ⟨(account, n.plain), (decodes_iff keyed).2 ⟨payee, _, stands, rfl⟩⟩
  | text s => exact ⟨(account, Text.trim s), (decodes_iff keyed).2 ⟨payee, _, stands, rfl⟩⟩

end Parameters

/-! ### Calls that fail before a change -/

/-- The exchanges that a request asks for end in an error. -/
inductive Request.FailsWith (outside : Outside) (wire : Wire) (e : ToolError) : Request → Prop where
  | change {prepare : Lookup Action} (failed : (prepare.run outside wire).1 = .error e) :
      FailsWith outside wire e (.change prepare)
  | question {answer : Lookup Json} (failed : (answer.run outside wire).1 = .error e) :
      FailsWith outside wire e (.question answer)

namespace LedgerTool

variable {tool : LedgerTool} {kit : Kit} {mode : Option Bool} {input : String}
  {outside : Outside} {journal : Journal} {wire : Wire}

/-- A request whose exchanges end in an error is answered with it, and the client is left alone. -/
theorem ends_call_of_failsWith {request : Request} {e : ToolError}
    (asked : tool.request kit input = .ok request)
    (fails : request.FailsWith outside journal.wire e) :
    Ends outside (tool.call kit mode input) journal fun answer after =>
      answer = e.answer.render ∧ after.calls = journal.calls := by
  rw [call, ends_bind, run, asked]
  cases fails with
  | change failed =>
      simp only [Request.fulfil, ends_run_bind, ExceptT.run_mk, Session.ends_inSession]
      rw [Ends, failed]
      exact ⟨rfl, rfl⟩
  | question failed =>
      simp only [Request.fulfil, ExceptT.run_mk, Session.ends_inSession]
      rw [Ends, failed]
      exact ⟨rfl, rfl⟩

/-- What fails at its first question fails as that does. -/
theorem run_bind_of_error {α β : Type} {first : Query α} {next : α → Lookup β} {e : KitError}
    (failed : (first.run outside wire).1 = .error e) :
    ((first.inLookup >>= next).run outside wire).1 = .error (.kit e) := by
  have course : Ends outside (first.inLookup >>= next).run wire fun result _ =>
      result = .error (.kit e) := by
    rw [ends_run_bind, Ends, fst_inLookup, failed]
    rfl
  exact course

/-- A call fails with an error: its input is turned away with it, or the exchanges that it asks
for end in it. -/
inductive Stumbles (tool : LedgerTool) (kit : Kit) (input : String) (outside : Outside)
    (wire : Wire) (e : ToolError) : Prop where
  | misasked (misread : tool.request kit input = .error e)
  | unsettled {request : Request} (asked : tool.request kit input = .ok request)
      (fails : request.FailsWith outside wire e)

/-- A call that stumbles answers with its error and calls no client. -/
theorem ends_call_of_stumbles {e : ToolError}
    (stumbles : tool.Stumbles kit input outside journal.wire e) :
    Ends outside (tool.call kit mode input) journal fun answer after =>
      answer = e.answer.render ∧ after.calls = journal.calls := by
  cases stumbles with
  | misasked misread =>
      exact (ends_turnedAway misread).mono fun _ _ turned => ⟨turned.answer, turned.calls⟩
  | unsettled asked fails => exact ends_call_of_failsWith asked fails

/-! ### The tools one by one -/

section

variable {raw : List (String × Json)} {text : String} {decimals : UInt32}
  (object : Json.parse (Text.trim input) = .ok (.object raw))
  (unparsable : Amount.Unparsable text)

include object unparsable

theorem stumbles_transferHbar {recipient : AccountId}
    (payee : Names raw "toAccountId" recipient)
    (amount : raw.lookup "amount" = some (.string text)) :
    LedgerTool.transferHbar.Stumbles kit input outside wire
      (.invalid "amount" (AmountError.invalidFormat (Text.trim text)).message) := by
  have shapeless :
      Tinybars.ofDisplay (Text.trim text) = .error (.invalidFormat (Text.trim text)) := by
    rw [Tinybars.ofDisplay, unparsable.toBaseUnits_trim (by decide)]
    rfl
  apply Stumbles.misasked
  refine bind_eq_error.2 (.inr ⟨(recipient, some (Text.trim text)), ?_, ?_⟩)
  · exact Parameters.read_pair_eq_ok_iff.2 ⟨_, Parameters.given_of_parse object,
      Parameters.field_of_names object payee,
      Parameters.field_of_text object amount unparsable.something⟩
  · refine bind_eq_error.2 (.inr ⟨Text.trim text, rfl, ?_⟩)
    rw [shapeless]

theorem stumbles_transferToken {token : TokenId} {recipient : AccountId}
    (asset : Names raw "tokenId" token) (payee : Names raw "toAccountId" recipient)
    (amount : raw.lookup "amount" = some (.string text))
    (reported : kit.Reports outside wire (some token) decimals)
    (supported : decimals.toNat ≤ 18) :
    LedgerTool.transferToken.Stumbles kit input outside wire
      (.kit (.amount (.invalidFormat (Text.trim text)))) := by
  have counted := tokenUnits_of_reports (Text.trim text) reported
  rw [unparsable.toBaseUnits_trim supported] at counted
  refine .unsettled (bind_eq_ok.2 ⟨(token, recipient, some (Text.trim text)), ?_,
    bind_eq_ok.2 ⟨Text.trim text, rfl, rfl⟩⟩) (.change (run_bind_of_error counted))
  exact Parameters.read_eq_ok_iff.2 ⟨_, Parameters.given_of_parse object,
    Fields.seq_eq_ok.2 ⟨_, _, Fields.seq_eq_ok.2 ⟨_, _, Fields.map_run_eq_ok.2 ⟨_,
      Parameters.field_of_names object asset, rfl⟩, Parameters.field_of_names object payee, rfl⟩,
      Parameters.field_of_text object amount unparsable.something, rfl⟩⟩

/-- An allowance stumbles once the decimals of its asset are known, and its error has another
code. -/
theorem stumbles_approveAllowance {asset : Option TokenId} {spender : AccountId}
    (chosen : (asset = none ∧ Lacks raw "tokenId") ∨
      ∃ token, asset = some token ∧ Names raw "tokenId" token)
    (payee : Names raw "spenderAccountId" spender)
    (amount : raw.lookup "amount" = some (.string text))
    (reported : kit.Reports outside wire asset decimals) (supported : decimals.toNat ≤ 18) :
    LedgerTool.approveAllowance.Stumbles kit input outside wire
      (.kit (.amount (.invalidFormat (Text.trim text)))) := by
  have counted := assetUnits_of_reports (Text.trim text) reported
  rw [unparsable.toBaseUnits_trim supported] at counted
  refine .unsettled (bind_eq_ok.2 ⟨(spender, some (Text.trim text), asset), ?_,
    bind_eq_ok.2 ⟨Text.trim text, rfl, rfl⟩⟩) (.change (run_bind_of_error counted))
  have read {size : Nat} {record : String} :
      (Fields.optional 2 "tokenId" (EntityId.decode : Json.Decoder TokenId)).run
        (Fields.partsOf record size (raw.filter fun m => Parameters.isGiven m.2)) =
          .ok asset := by
    obtain ⟨rfl, lacks⟩ | ⟨token, rfl, names⟩ := chosen
    · exact Parameters.optional_of_lacks object lacks
    · exact Parameters.optional_of_names object names
  exact Parameters.read_eq_ok_iff.2 ⟨_, Parameters.given_of_parse object,
    Fields.seq_eq_ok.2 ⟨_, _, Fields.seq_eq_ok.2 ⟨_, _, Fields.map_run_eq_ok.2 ⟨_,
      Parameters.field_of_names object payee, rfl⟩,
      Parameters.field_of_text object amount unparsable.something, rfl⟩, read, rfl⟩⟩

theorem stumbles_tokenHolders {token : TokenId} (named : Names raw "tokenId" token)
    (amount : raw.lookup "threshold" = some (.string text))
    (reported : kit.Reports outside wire (some token) decimals)
    (supported : decimals.toNat ≤ 18) :
    LedgerTool.tokenHolders.Stumbles kit input outside wire
      (.kit (.amount (.invalidFormat (Text.trim text)))) := by
  have counted := tokenUnits_of_reports (Text.trim text) reported
  rw [unparsable.toBaseUnits_trim supported] at counted
  have threshold : (((some (Text.trim text)).mapM (kit.tokenUnits token)).run outside wire).1 =
      .error (.amount (.invalidFormat (Text.trim text))) := by
    have course : Ends outside ((some (Text.trim text)).mapM (kit.tokenUnits token)).run wire
        fun result _ => result = .error (.amount (.invalidFormat (Text.trim text))) := by
      rw [Option.mapM_some, map_eq_pure_bind, ends_run_bind, Ends, counted]
      rfl
    exact course
  refine .unsettled (bind_eq_ok.2 ⟨(token, some (Text.trim text)), ?_, rfl⟩)
    (.question (run_bind_of_error threshold))
  exact Parameters.read_pair_eq_ok_iff.2 ⟨_, Parameters.given_of_parse object,
    Parameters.field_of_names object named,
    Parameters.field_of_text object amount unparsable.something⟩

omit object in
/-- Recipients of whom one has an amount that is no numeral are not counted. -/
theorem airdropRecipients_of_unparsable {wanted : List (AccountId × String)} {account : AccountId}
    {amount : String} (among : (account, amount) ∈ wanted)
    (same : Text.trimmed amount.toList = Text.trimmed text.toList)
    (supported : decimals.toNat ≤ 18) :
    ∃ e : AmountError, airdropRecipients decimals wanted =
      .error (.invalid "recipients" e.message) := by
  cases counted : airdropRecipients decimals wanted with
  | ok recipients =>
      obtain ⟨recipient, -, -, units⟩ :=
        Json.exists_of_mem_left (airdropRecipients_eq_ok_iff.1 counted) among
      cases (unparsable.toBaseUnits same supported).symm.trans units
  | error e =>
      obtain ⟨⟨account, amount⟩, -, failed⟩ := Json.exists_of_mapM_eq_error counted
      dsimp only at failed
      split at failed
      · rename_i e' _
        exact ⟨e', congrArg Except.error (Except.error.inj failed).symm⟩
      · cases failed

theorem stumbles_airdropToken {token : TokenId} {items : List Json} {item : Json}
    (named : Names raw "tokenId" token) (listed : raw.lookup "recipients" = some (.array items))
    (complete : ∀ item ∈ items, Parameters.Complete item) (among : item ∈ items)
    (amount : item.part? 2 1 "amount" = some (.string text))
    (reported : kit.Reports outside wire (some token) decimals)
    (supported : decimals.toNat ≤ 18) :
    ∃ e : AmountError, LedgerTool.airdropToken.Stumbles kit input outside wire
      (.invalid "recipients" e.message) := by
  have keyed := keyed_of_listed object listed
  obtain ⟨wanted, each⟩ := Json.exists_forall₂ fun item among =>
    (complete item among).exists_decodes (keyed item among)
  have nonempty : items ≠ [] := List.ne_nil_of_mem among
  have asked : LedgerTool.airdropToken.request kit input =
      .ok (.change (airdropping kit token wanted)) :=
    request_airdropToken_iff.2 ⟨token, wanted,
      (Parameters.airdropParameters_eq_ok_iff object named listed nonempty).2 ⟨rfl, each⟩, rfl⟩
  obtain ⟨⟨account, given⟩, wanted_mem, decoded⟩ := Json.exists_of_mem_left each among
  obtain ⟨-, v, stands, counted⟩ := (Parameters.decodes_iff (keyed item among)).1 decoded
  cases stands.symm.trans amount
  have taken : Text.trim text = given := Option.some.inj (Except.ok.inj counted)
  have same : Text.trimmed given.toList = Text.trimmed text.toList := by
    rw [← taken, Text.trimmed_trim]
  obtain ⟨e, failed⟩ := airdropRecipients_of_unparsable unparsable wanted_mem same supported
  refine ⟨e, .unsettled asked (.change ?_)⟩
  rw [(ends_airdropping reported).1, failed]
  rfl

end

/-- Every tool that takes an amount as people write it answers with an error where the amount is no
numeral, all else is given as it should be, and the decimals that are reported of the asset are
supported; nothing is handed over.  The code says that a parameter is invalid for transfers of
the ledger's own currency and for airdrops, and that an amount is for all other tools. -/
theorem unparsable_call (tool : LedgerTool) (kit : Kit) (mode : Option Bool) (input : String)
    (outside : Outside) (journal : Journal) {raw : List (String × Json)} {asset : Option TokenId}
    {text : String} {decimals : UInt32}
    (object : Json.parse (Text.trim input) = .ok (.object raw))
    (writes : tool.Writes raw asset text) (unparsable : Amount.Unparsable text)
    (reported : kit.Reports outside journal.wire asset decimals)
    (supported : decimals.toNat ≤ 18) :
    Ends outside (tool.call kit mode input) journal fun answer after =>
      ∃ e : ToolError, answer = e.answer.render ∧ e.code = tool.amountFaultCode ∧
        after.calls = journal.calls := by
  obtain ⟨e, stumbles, code⟩ : ∃ e, tool.Stumbles kit input outside journal.wire e ∧
      e.code = tool.amountFaultCode := by
    cases writes with
    | payment asks amount =>
        cases asks with
        | hbarTransfer payee =>
            exact ⟨_, stumbles_transferHbar object unparsable payee amount, rfl⟩
        | tokenTransfer asset payee =>
            exact ⟨_, stumbles_transferToken object unparsable asset payee amount reported
              supported, rfl⟩
        | hbarAllowance asset payee =>
            exact ⟨_, stumbles_approveAllowance object unparsable (.inl ⟨rfl, asset⟩) payee amount
              reported supported, rfl⟩
        | tokenAllowance asset payee =>
            exact ⟨_, stumbles_approveAllowance object unparsable (.inr ⟨_, rfl, asset⟩) payee
              amount reported supported, rfl⟩
    | airdrop named listed complete among amount =>
        obtain ⟨e, stumbles⟩ := stumbles_airdropToken object unparsable named listed complete among
          amount reported supported
        exact ⟨_, stumbles, rfl⟩
    | threshold named amount =>
        exact ⟨_, stumbles_tokenHolders object unparsable named amount reported supported, rfl⟩
  exact (ends_call_of_stumbles stumbles).mono fun _ _ ⟨answered, kept⟩ =>
    ⟨e, answered, code, kept⟩

/-! ### A comma in an amount -/

/-- The members that allow a spender an amount with a comma. -/
def commaMembers : List (String × Json) :=
  [("amount", .string "2,5"), ("spenderAccountId", .string "0.0.5006")]

theorem parse_commaMembers :
    Json.parse (Text.trim (Json.object commaMembers).render) = .ok (.object commaMembers) := by
  have fits : Json.Fits Json.maxDepth (.object commaMembers) := by
    simp [commaMembers, Json.Fits, Json.MembersFit, Json.maxDepth]
  have solid : Text.trim (Json.object commaMembers).render = (Json.object commaMembers).render := by
    decide +kernel
  exact Json.parse_of_render solid fits rfl

theorem writes_commaMembers : approveAllowance.Writes commaMembers none "2,5" :=
  .payment (@Asks.hbarAllowance _ ⟨0, 0, 5006⟩ rfl ⟨_, rfl, rfl⟩) rfl

theorem unparsable_comma : Amount.Unparsable "2,5" := by
  refine ⟨by decide, fun whole fraction spells => ?_⟩
  have shapeless : Amount.numeral? (Text.trimmed "2,5".toList) = none := by decide
  cases shapeless.symm.trans (Amount.numeral?_eq_some_iff.2 spells)

theorem unparsable_call_comma :
    Json.parse (Text.trim (Json.object commaMembers).render) = .ok (.object commaMembers) ∧
      approveAllowance.Writes commaMembers none "2,5" ∧ Amount.Unparsable "2,5" ∧
      Kit.unoperated.Reports Kit.cutOff .empty none 8 ∧ (8 : UInt32).toNat ≤ 18 ∧
      Ends Kit.cutOff (approveAllowance.call Kit.unoperated none (Json.object commaMembers).render)
        .empty fun answer after => ∃ e : ToolError, answer = e.answer.render ∧
          e.code = approveAllowance.amountFaultCode ∧ after.calls = [] :=
  ⟨parse_commaMembers, writes_commaMembers, unparsable_comma, .currency, by decide,
    unparsable_call approveAllowance Kit.unoperated none _ Kit.cutOff .empty parse_commaMembers
      writes_commaMembers unparsable_comma .currency (by decide)⟩

/-- An allowance whose amount has a comma is not answered as an invalid parameter. -/
theorem approveAllowance_comma :
    approveAllowance.Writes commaMembers none "2,5" ∧ Amount.Unparsable "2,5" ∧
      (approveAllowance.call Kit.unoperated none (Json.object commaMembers).render Kit.cutOff
        .empty).1 =
          "\x7b\"code\":\"INVALID_AMOUNT\",\"message\":\"Invalid amount: " ++
            "Invalid amount format: `2,5`\",\"status\":\"error\"\x7d" ∧
      ∀ e : ToolError, e.code = "INVALID_PARAMETER" →
        (approveAllowance.call Kit.unoperated none (Json.object commaMembers).render Kit.cutOff
          .empty).1 ≠ e.answer.render := by
  have answered : (approveAllowance.call Kit.unoperated none (Json.object commaMembers).render
      Kit.cutOff .empty).1 =
        (ToolError.kit (.amount (.invalidFormat "2,5"))).answer.render := by decide +kernel
  refine ⟨writes_commaMembers, unparsable_comma, by decide +kernel, fun e code same => ?_⟩
  have codes := ToolError.code_of_render (answered.symm.trans same)
  rw [code] at codes
  exact absurd codes (by decide)

end LedgerTool

end LedgerAgent
