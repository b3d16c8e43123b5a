/-
Module: LedgerAgent.Proofs.Tool.Suiting
Purpose: Which values suit a parameter, and what is told of those that do not: the message blames
  the value, whatever it quotes of it, and never passes for that of a missing parameter.
Main exports: ParameterKind.Suits, ParameterKind.suits_iff, ToolError.ofDecode_missingField,
  ToolError.ofDecode_of_blames, ParameterKind.blames_of_refusal
-/
import LedgerAgent.Proofs.Execution
import LedgerAgent.Proofs.Tool.Content
import LedgerAgent.Proofs.Tool.Declared

namespace LedgerAgent

open Json (DecodeError Found)

/-! ### Values that suit -/

namespace Parameters

/-- A value spells an entity of a kind. -/
def SpellsEntity (kind : EntityKind) (v : Json) : Prop :=
  ∃ (text : String) (id : EntityId kind), v = .string text ∧ EntityId.parse text = .ok id

/-- A value is one that an amount, or its absence, is read from; the amount is not judged yet. -/
inductive SpellsAmount : Json → Prop where
  | nothing : SpellsAmount .null
  | number (n : Json.Number) : SpellsAmount (.number n)
  | text (s : String) : SpellsAmount (.string s)

/-- A value is one that a whole number of 64 bits, or its absence, is read from. -/
inductive SpellsWhole : Json → Prop where
  | nothing : SpellsWhole .null
  | number (n : UInt64) : SpellsWhole (.number (.natural n))
  | text {s : String} {n : UInt64} (numeral : Text.Numeral.uint64 (Text.trimmed s.toList) = .ok n) :
      SpellsWhole (.string s)

/-- An item is one that a recipient is read from: it has an account, and its amount, if any, can
be one. -/
structure SpellsRecipient (item : Json) : Prop where
  account : ∃ v, item.part? 2 0 "accountId" = some v ∧ SpellsEntity .account v
  amount : ∀ v, item.part? 2 1 "amount" = some v → SpellsAmount v

end Parameters

open Parameters (SpellsEntity SpellsAmount SpellsWhole SpellsRecipient)

namespace ParameterKind

/-- A value suits a parameter of a kind. -/
inductive Suits : ParameterKind → Json → Prop where
  | text (s : String) : Suits .text (.string s)
  | flag (b : Bool) : Suits .flag (.bool b)
  | entity {kind : EntityKind} {v : Json} (spells : SpellsEntity kind v) : Suits (.entity kind) v
  | amount {v : Json} (spells : SpellsAmount v) : Suits .amount v
  | wholeNumber {v : Json} (spells : SpellsWhole v) : Suits .wholeNumber v
  | recipients {items : List Json} (each : ∀ item ∈ items, SpellsRecipient item) :
      Suits .recipients (.array items)

end ParameterKind

namespace Parameters

variable {v item : Json}

theorem decodeJson_toReading (v : Json) :
    Json.decodeJson .value v.toReading = .ok v.toReading.value := by
  rw [Json.decodeJson, Json.Reading.toJson, Json.fault?_toReading]
  rfl

/-- An entity is decoded of the texts that spell it. -/
theorem decodeEntity_iff {kind : EntityKind} :
    (∃ id : EntityId kind, EntityId.decode .value v.toReading = .ok id) ↔ SpellsEntity kind v := by
  constructor
  · rintro ⟨id, decoded⟩
    obtain ⟨text, rfl, parsed⟩ := EntityId.string_of_decode decoded
    exact ⟨text, id, rfl, parsed⟩
  · rintro ⟨text, id, rfl, parsed⟩
    exact ⟨id, Json.reads_via parsed .value⟩

/-- An amount is decoded of texts and numbers. -/
theorem decodeAmount_iff :
    (∃ amount, decodeAmount .value v.toReading = .ok amount) ↔ SpellsAmount v := by
  constructor
  · rintro ⟨amount, decoded⟩
    rw [decodeAmount, decodeJson_toReading] at decoded
    cases v with
    | null => exact .nothing
    | number n => exact .number n
    | string s => exact .text s
    | _ => cases decoded
  · intro spells
    cases spells with
    | nothing => exact ⟨_, rfl⟩
    | number n => exact ⟨_, rfl⟩
    | text s => exact ⟨_, rfl⟩

/-- Of a text a whole number is read as its numeral tells, without the white space around it. -/
theorem decodeWholeNumber_string (s : String) :
    decodeWholeNumber .value (Json.toReading (.string s)) =
      ((Text.Numeral.uint64 (Text.trimmed s.toList)).map some).mapError fun _ => notWhole s := by
  have read : Json.decodeJson .value (Json.toReading (.string s)) = .ok (.string s) := rfl
  simp only [decodeWholeNumber, read, bind, Except.bind]
  cases Text.Numeral.uint64 (Text.trimmed s.toList) with
  | ok n => rfl
  | error e => rfl

/-- A whole number is decoded of what spells it, as a text or as a number. -/
theorem decodeWholeNumber_iff :
    (∃ n, decodeWholeNumber .value v.toReading = .ok n) ↔ SpellsWhole v := by
  constructor
  · rintro ⟨n, decoded⟩
    cases v with
    | null => exact .nothing
    | number n =>
        cases n with
        | natural n => exact .number n
        | negative | real => cases decoded
    | string s =>
        rw [decodeWholeNumber_string, Json.mapError_eq_ok] at decoded
        obtain ⟨n, numeral, -⟩ := Json.map_eq_ok.1 decoded
        exact .text numeral
    | _ =>
        rw [decodeWholeNumber, decodeJson_toReading] at decoded
        cases decoded
  · intro spells
    cases spells with
    | nothing => exact ⟨_, rfl⟩
    | number n => exact ⟨_, rfl⟩
    | @text s n numeral =>
        refine ⟨some n, ?_⟩
        rw [decodeWholeNumber_string, numeral]
        rfl

/-- A recipient is decoded of its account and of an amount, if there is one. -/
theorem decodeRecipient_iff (keyed : item.Keyed) :
    (∃ recipient, LedgerTool.recipientDecoder .value item.toReading = .ok recipient) ↔
      SpellsRecipient item := by
  constructor
  · rintro ⟨⟨account, amount⟩, decoded⟩
    obtain ⟨⟨v, stands, named⟩, counted⟩ := (decodeRecipient_eq_ok_iff keyed).1 decoded
    refine ⟨⟨v, stands, decodeEntity_iff.1 ⟨account, named⟩⟩, ?_⟩
    intro w stands'
    rcases counted with ⟨nothing, -⟩ | ⟨w', stands'', taken⟩
    · cases nothing.symm.trans stands'
    · cases stands'.symm.trans stands''
      exact decodeAmount_iff.1 ⟨amount, taken⟩
  · rintro ⟨⟨v, stands, spells⟩, portion⟩
    obtain ⟨account, named⟩ := decodeEntity_iff.2 spells
    cases counted : item.part? 2 1 "amount" with
    | none =>
        refine ⟨(account, none), ?_⟩
        exact (decodeRecipient_eq_ok_iff keyed).2 ⟨⟨v, stands, named⟩, .inl ⟨counted, rfl⟩⟩
    | some w =>
        obtain ⟨amount, taken⟩ := decodeAmount_iff.2 (portion w counted)
        refine ⟨(account, amount), ?_⟩
        exact (decodeRecipient_eq_ok_iff keyed).2 ⟨⟨v, stands, named⟩, .inr ⟨w, counted, taken⟩⟩

end Parameters

namespace ParameterKind

/-- A parameter is read exactly of the values that suit it. -/
theorem suits_iff {kind : ParameterKind} {v : Json} (read : v.WasRead) :
    kind.Suits v ↔ ∃ value, kind.decoder .value v.toReading = .ok value := by
  constructor
  · intro suits
    cases suits with
    | text s => exact ⟨s, rfl⟩
    | flag b => exact ⟨b, rfl⟩
    | entity spells => exact Parameters.decodeEntity_iff.2 spells
    | amount spells => exact Parameters.decodeAmount_iff.2 spells
    | wholeNumber spells => exact Parameters.decodeWholeNumber_iff.2 spells
    | recipients each =>
        obtain ⟨recipients, made⟩ := Json.exists_forall₂ fun item among =>
          (Parameters.decodeRecipient_iff (read.of_mem among).keyed).2 (each item among)
        exact ⟨recipients, Json.decodeList_iff.2 made⟩
  · rintro ⟨value, decoded⟩
    cases kind with
    | text =>
        cases Json.decodeString_iff.1 decoded
        exact .text _
    | flag =>
        cases v with
        | bool b => exact .flag b
        | _ => cases decoded
    | entity kind => exact .entity (Parameters.decodeEntity_iff.1 ⟨value, decoded⟩)
    | amount => exact .amount (Parameters.decodeAmount_iff.1 ⟨value, decoded⟩)
    | wholeNumber => exact .wholeNumber (Parameters.decodeWholeNumber_iff.1 ⟨value, decoded⟩)
    | recipients =>
        cases v with
        | array items =>
            refine .recipients fun item among => ?_
            have made := Json.decodeList_iff.1 decoded
            obtain ⟨recipient, -, taken⟩ := Json.exists_of_mem_left made among
            exact (Parameters.decodeRecipient_iff (read.of_mem among).keyed).1 ⟨recipient, taken⟩
        | _ => cases decoded

end ParameterKind

/-! ### Messages

The messages of a decoder quote what was given.  Only one begins with the words that tell of a
missing field, and it ends with the field's name. -/

namespace ToolError

/-- A message that begins with some text begins with its first letter. -/
theorem head?_append {lead : String} {c : Char} (first : lead.toList.head? = some c)
    (rest : String) : (lead ++ rest).toList.head? = some c := by
  rw [String.toList_append, List.head?_append, first]
  rfl

/-- The error of a missing field is told by its message, whatever the field's name. -/
theorem ofDecode_missingField (name : String) :
    ofDecode (.missingField name) = .missingParameter name := by
  have written : (DecodeError.missingField name).message = "missing field `" ++ name ++ "`" := rfl
  have behind : (name.toList ++ "`".toList).reverse = "`".toList ++ name.toList.reverse := by
    rw [List.reverse_append]
    rfl
  have named : missingName? (DecodeError.missingField name).message = some name := by
    rw [written, missingName?, String.toList_append, String.toList_append, List.append_assoc,
      Text.dropLead_append, Option.bind_eq_bind, Option.bind_some, behind, Text.dropLead_append,
      Option.bind_some, List.reverse_reverse, String.ofList_toList]
    rfl
  rw [ofDecode, named]

/-- An error is told as one of a value, not of a missing field. -/
def Blames (e : DecodeError) : Prop :=
  e.message.toList.head? ≠ some 'm'

/-- An error that puts the blame on a value is told as it stands. -/
theorem ofDecode_of_blames {e : DecodeError} (blames : Blames e) :
    ofDecode e = .invalidParameter e.message := by
  have lead : "missing field `".toList = 'm' :: "issing field `".toList := rfl
  have nameless : missingName? e.message = none := by
    rw [missingName?, lead]
    cases written : e.message.toList with
    | nil => rfl
    | cons c rest =>
        rw [Blames, written] at blames
        have apart : 'm' ≠ c := fun same => blames (congrArg some same.symm)
        rw [Text.dropLead, if_neg apart]
        rfl
  rw [ofDecode, nameless]

/-- An error whose words begin with anything but an m puts the blame on a value. -/
theorem blames_of_head {e : DecodeError} {c : Char} (first : e.message.toList.head? = some c)
    (other : c ≠ 'm') : Blames e := by
  intro same
  exact other (Option.some.inj (first.symm.trans same))

theorem blames_invalidType (found : Found) (expected : String) :
    Blames (.invalidType found expected) :=
  blames_of_head (head?_append (head?_append (head?_append rfl _) _) _) (by decide : 'i' ≠ 'm')

theorem blames_invalidLength (length : Nat) (expected : String) :
    Blames (.invalidLength length expected) :=
  blames_of_head (head?_append (head?_append (head?_append rfl _) _) _) (by decide : 'i' ≠ 'm')

theorem blames_invalidEntity (kind : EntityKind) (text : String) :
    Blames (.refused (IdError.invalidEntity kind text).message) :=
  blames_of_head (head?_append (head?_append (head?_append (head?_append rfl _) _) _) _)
    (by decide : 'I' ≠ 'm')

theorem blames_noAmount (shown : String) :
    Blames (.refused s!"expected an amount as a number or string, got `{shown}`") :=
  blames_of_head (head?_append (head?_append rfl _) _) (by decide : 'e' ≠ 'm')

theorem blames_notWhole (shown : String) : Blames (Parameters.notWhole shown) :=
  blames_of_head (head?_append (head?_append rfl _) _) (by decide : 'e' ≠ 'm')

end ToolError

open ToolError (Blames)

namespace Parameters

variable {v item : Json} {e : DecodeError}

/-- Every object among the items of a value names an account. -/
def RecipientsNamed (v : Json) : Prop :=
  ∀ items, v = .array items → ∀ members, Json.object members ∈ items →
    ∃ account, ("accountId", account) ∈ members

theorem blames_decodeString (failed : Json.decodeString .value v.toReading = .error e) :
    Blames e := by
  cases v with
  | string s => cases failed
  | _ =>
      cases failed
      exact ToolError.blames_invalidType _ _

theorem blames_decodeEntity {kind : EntityKind}
    (failed : (EntityId.decode : Json.Decoder (EntityId kind)) .value v.toReading = .error e) :
    Blames e := by
  rcases Json.bind_eq_error.1 failed with untexted | ⟨text, -, unparsed⟩
  · exact blames_decodeString untexted
  · obtain ⟨e', fault, rfl⟩ := Json.mapError_eq_error.1 unparsed
    rw [EntityId.parse] at fault
    split at fault
    · cases fault
    · cases fault
      exact ToolError.blames_invalidEntity _ _

theorem blames_decodeAmount (failed : decodeAmount .value v.toReading = .error e) : Blames e := by
  rw [decodeAmount, decodeJson_toReading] at failed
  cases v with
  | null => cases failed
  | number n => cases failed
  | string s => cases failed
  | bool | array | object =>
      cases failed
      exact ToolError.blames_noAmount _

theorem blames_decodeWholeNumber (failed : decodeWholeNumber .value v.toReading = .error e) :
    Blames e := by
  cases v with
  | null => cases failed
  | number n =>
      cases n with
      | natural n => cases failed
      | negative | real =>
          cases failed
          exact ToolError.blames_notWhole _
  | string s =>
      rw [decodeWholeNumber_string] at failed
      obtain ⟨_, -, rfl⟩ := Json.mapError_eq_error.1 failed
      exact ToolError.blames_notWhole s
  | bool | array | object =>
      rw [decodeWholeNumber, decodeJson_toReading] at failed
      cases failed
      exact ToolError.blames_notWhole _

/-- The fields of a recipient: an account, and an amount that may be left out. -/
theorem declares_recipient :
    (Prod.mk <$> Json.Fields.required 0 "accountId" (EntityId.decode : Json.Decoder AccountId) <*>
      Json.Fields.defaulted 1 "amount" decodeAmount none).Declares
        [⟨"accountId", true, Json.refusal? (EntityId.decode : Json.Decoder AccountId)⟩,
          ⟨"amount", false, Json.refusal? decodeAmount⟩] :=
  .seq (.map _ (.field ..)) (.field ..)

/-- An item that is no recipient is blamed itself, if it names an account where it is an object. -/
theorem blames_decodeRecipient (keyed : item.Keyed)
    (named : ∀ members, item = .object members → ∃ account, ("accountId", account) ∈ members)
    (failed : LedgerTool.recipientDecoder .value item.toReading = .error e) : Blames e := by
  cases declares_recipient.objection keyed failed with
  | shape found expected => exact ToolError.blames_invalidType found expected
  | length length expected => exact ToolError.blames_invalidLength length expected
  | part among refusal =>
      obtain rfl | among := List.mem_cons.1 among
      · exact blames_decodeEntity (Json.refusal?_eq_some_iff.1 refusal)
      · cases List.mem_singleton.1 among
        exact blames_decodeAmount (Json.refusal?_eq_some_iff.1 refusal)
  | @absence d members object lacks =>
      obtain ⟨account, among⟩ := named members object
      have absent := List.find?_some lacks
      obtain rfl | among' := List.mem_cons.1 (List.mem_of_find?_eq_some lacks)
      · have nowhere : members.lookup "accountId" = none := by simpa using absent
        simpa using List.lookup_eq_none_iff.1 nowhere _ among
      · cases List.mem_singleton.1 among'
        cases absent

end Parameters

namespace ParameterKind

/-- Whatever a reader has against a value of a parameter, it blames the value. -/
theorem blames_of_refusal {kind : ParameterKind} {v : Json} {e : DecodeError} (read : v.WasRead)
    (named : kind = .recipients → Parameters.RecipientsNamed v)
    (refused : kind.decoder .value v.toReading = .error e) : Blames e := by
  cases kind with
  | text => exact Parameters.blames_decodeString refused
  | flag =>
      cases v with
      | bool b => cases refused
      | _ =>
          cases refused
          exact ToolError.blames_invalidType _ _
  | entity kind => exact Parameters.blames_decodeEntity refused
  | amount => exact Parameters.blames_decodeAmount refused
  | wholeNumber => exact Parameters.blames_decodeWholeNumber refused
  | recipients =>
      cases v with
      | array items =>
          have listed : Json.decodeItems LedgerTool.recipientDecoder .value
              (Json.itemReadings items) = .error e := by
            obtain failed | ⟨values, -, ⟨⟩⟩ := Json.bind_eq_error.1 refused
            exact failed
          rw [Json.decodeItems_eq_mapM, Json.itemReadings_eq_map] at listed
          obtain ⟨r, mapped, failed⟩ := Json.exists_of_mapM_eq_error listed
          obtain ⟨item, among, rfl⟩ := List.mem_map.1 mapped
          refine Parameters.blames_decodeRecipient (read.of_mem among).keyed ?_ failed
          rintro members rfl
          exact named rfl items rfl members among
      | _ =>
          cases refused
          exact ToolError.blames_invalidType _ _

end ParameterKind

end LedgerAgent
