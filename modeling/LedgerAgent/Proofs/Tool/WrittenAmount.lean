/-
Module: LedgerAgent.Proofs.Tool.WrittenAmount
Purpose: Amounts that are written as JSON numbers: what a payment makes of the number that
  stands in its input.
Main exports: Json.lookup_of_written, LedgerTool.conveys_written
-/
import LedgerAgent.Proofs.Json.Number
import LedgerAgent.Proofs.Json.Written
import LedgerAgent.Proofs.Tool.Conveyance

namespace LedgerAgent

open Json (Literal Source ElementText bind_eq_ok)

namespace Json

/-- A literal that is read without a fault goes as a number. -/
theorem Literal.number_of_sound {l : Literal} (sound : l.reading.fault? = none) :
    ∃ n, l.Goes n ∧ l.reading.value = .number n := by
  rw [Literal.reading] at sound ⊢
  cases found : l.parts.toNumber? with
  | none =>
      rw [found] at sound
      cases sound
  | some n => exact ⟨n, Literal.goes_of_toNumber? found, rfl⟩

/-- Where the text of an object is parsed, the last member of a name that is a number has the
number that its literal goes to. -/
theorem lookup_of_written {text : String} {members : List (String × Source)}
    {raw : List (String × Json)} {key : String} {l : Literal} (written : ElementText text.toList (.object members))
    (stands : members.reverse.lookup key = some (.number l))
    (object : parse text = .ok (.object raw)) :
    ∃ n, l.Goes n ∧ raw.lookup key = some (.number n) := by
  obtain ⟨n, goes, number⟩ := Literal.number_of_sound (fault?_of_written written object stands)
  refine ⟨n, goes, ?_⟩
  rw [lookup_eq_of_written written object, stands, Option.map_some]
  exact congrArg some number

end Json

namespace LedgerTool

variable {tool : LedgerTool} {kit : Kit} {input : String}

/-- A payment that asks for anything has read its parameters. -/
theorem given_of_isPayment {request : Request} (payment : tool.isPayment = true)
    (asked : tool.request kit input = .ok request) :
    ∃ members, Parameters.given input = .ok members := by
  cases tool with
  | transferHbar | transferToken | approveAllowance =>
      obtain ⟨_, read, -⟩ := bind_eq_ok.1 asked
      obtain ⟨members, counted, -⟩ := Parameters.read_eq_ok_iff.1 read
      exact ⟨members, counted⟩
  | _ => cases payment

/-! ### HBAR transfers with any literal as their amount -/

/-- The text of an HBAR transfer whose amount is a literal. -/
def transferText (l : Literal) : List Char :=
  '\x7b' :: ("\"amount\":".toList ++ l.chars ++ ",\"toAccountId\":\"0.0.5006\"".toList) ++
    ['\x7d']

def transferMembers (l : Literal) : List (String × Source) :=
  [("amount", .number l), ("toAccountId", .string "0.0.5006")]

theorem element_transferText (l : Literal) :
    ElementText (transferText l) (.object (transferMembers l)) := by
  have party : Json.ValueText ('"' :: "0.0.5006".toList ++ ['"']) (.string "0.0.5006") := by
    apply Json.ValueText.string
    exact .self rfl
  have pair := ElementText.pair (.self rfl : Json.Spelling "amount".toList "amount".toList)
    (.number l) (.self rfl : Json.Spelling "toAccountId".toList "toAccountId".toList) party
  simpa [transferText, transferMembers] using pair

theorem trimmed_transferText (l : Literal) : Text.trimmed (transferText l) = transferText l :=
  Text.trimmed_of_solid_ends _ (by decide) (by decide)

/-- The amount is parsed as the number that its literal goes as. -/
theorem parse_transferText {l : Literal} {n : Json.Number} (reads : l.parts.toNumber? = some n) :
    Json.parse (Text.trim (String.ofList (transferText l))) =
      .ok (.object [("amount", .number n), ("toAccountId", .string "0.0.5006")]) := by
  have element : ElementText (Text.trim (String.ofList (transferText l))).toList
      (.object (transferMembers l)) := by
    rw [Text.trim, String.toList_ofList, String.toList_ofList, trimmed_transferText]
    exact element_transferText l
  have number : l.reading = .number n := by rw [Literal.reading, reads]
  have reading : (Source.object (transferMembers l)).reading 0 =
      .object [("amount", .number n), ("toAccountId", .string "0.0.5006")] none := by
    rw [← number]
    rfl
  rw [Json.parse_eq_ok_iff, Json.read_element element, Json.Reading.toJson_eq_ok_iff, reading]
  exact ⟨⟨rfl, rfl⟩, rfl⟩

/-- A literal whose number counts as tinybars that can be moved is what a transfer moves. -/
theorem exists_transferText {l : Literal} {n : Json.Number} {units : UInt64} {signed : Int64}
    (reads : l.parts.toNumber? = some n)
    (counted : Amount.toBaseUnits n.plain Amount.hbarDecimals = .ok units)
    (small : Amount.toSigned units = .ok signed) :
    ∃ t, LedgerTool.transferHbar.Produces Kit.unoperated none (String.ofList (transferText l))
        Kit.cutOff .empty t ∧
      Body.Conveys Kit.unoperated.account ⟨0, 0, 5006⟩ units.toNat .transferHbar none t.body := by
  have taken : Parameters.read ["toAccountId", "amount"]
      (Prod.mk <$> .required 0 "toAccountId" EntityId.decode
        <*> .defaulted 1 "amount" Parameters.decodeAmount none) (String.ofList (transferText l)) =
      .ok ((⟨0, 0, 5006⟩ : AccountId), some n.plain) := by
    rw [Parameters.read, Parameters.readWith, Parameters.given_of_parse (parse_transferText reads)]
    rfl
  have display : Tinybars.ofDisplay n.plain = .ok ⟨units⟩ := by
    rw [Tinybars.ofDisplay, counted]
    rfl
  have asked : LedgerTool.transferHbar.request Kit.unoperated (String.ofList (transferText l)) =
      .ok (.ofAction (.transferHbar ⟨0, 0, 5006⟩ ⟨units⟩)) := by
    refine bind_eq_ok.2 ⟨_, taken, bind_eq_ok.2 ⟨n.plain, rfl, ?_⟩⟩
    rw [display]
    rfl
  have made : (Action.transferHbar ⟨0, 0, 5006⟩ ⟨units⟩).instruction Kit.unoperated.user =
      .ok (.transferHbar Kit.unoperated.account ⟨0, 0, 5006⟩ signed) :=
    Json.map_eq_ok.2 ⟨signed, small, rfl⟩
  obtain ⟨t, produced, body⟩ := @produces_of_settled _ Kit.unoperated none _ Kit.cutOff .empty _ _
    _ _ asked rfl rfl made (by decide) Kit.withinSecond_cutOff
  exact ⟨t, produced, body ▸ Pays.hbarTransfer.conveys made⟩

def twoAndAHalf : Literal where
  negative := false
  whole := ⟨['2'], List.cons_ne_nil _ _, List.all_eq_true.1 rfl⟩
  noZero := by simp
  fraction := some ⟨['5'], List.cons_ne_nil _ _, List.all_eq_true.1 rfl⟩
  exponent := none

theorem value_twoAndAHalf : twoAndAHalf.value = 5 / 2 := by
  have digits : Json.digitsValue ['2', '5'] = 25 := rfl
  rw [Literal.value, Literal.magnitude_eq]
  simp [twoAndAHalf, digits]
  norm_num

/-- The literal `90071992.5474099d` with a last digit `d`, sixteen digits in all. -/
def sixteen (d : Char) (digital : Text.Numeral.isDigit d = true) : Literal where
  negative := false
  whole := ⟨['9', '0', '0', '7', '1', '9', '9', '2'], List.cons_ne_nil _ _,
    List.all_eq_true.1 rfl⟩
  noZero := by simp
  fraction := some ⟨['5', '4', '7', '4', '0', '9', '9', d], List.cons_ne_nil _ _,
    List.all_eq_true.1 (by simp only [List.all_cons, digital]; rfl)⟩
  exponent := none

theorem value_sixteen (d : Char) (digital : Text.Numeral.isDigit d = true) :
    (sixteen d digital).value * 10 ^ 8 = (9007199254740990 + (d.toNat - '0'.toNat) : Nat) := by
  have digits : Json.digitsValue ['9', '0', '0', '7', '1', '9', '9', '2', '5', '4', '7', '4', '0',
      '9', '9', d] = 9007199254740990 + (d.toNat - '0'.toNat) := rfl
  rw [Literal.value, Literal.magnitude_eq]
  simp [sixteen, digits]

/-! ### Amounts that are written -/

/-- A payment whose amount is written as a JSON number moves or allows the units of the number
that the literal goes to: of just the written one where it is kept, and else of one next to it.
If it produces no transaction, the call fails. -/
theorem conveys_written (tool : LedgerTool) (kit : Kit) (mode : Option Bool) (input : String)
    (outside : Outside) (journal : Journal) {members : List (String × Source)} {l : Literal}
    (payment : tool.isPayment = true)
    (written : ElementText (Text.trimmed input.toList) (.object members))
    (stands : members.reverse.lookup "amount" = some (.number l))
    (clock : ∀ reading, (outside.clock reading).WithinSecond) :
    (∀ t, tool.Produces kit mode input outside journal t →
      ∃ raw asset party decimals actor units n,
        Json.parse (Text.trim input) = .ok (.object raw) ∧ Asks raw tool asset party ∧
          kit.Reports outside journal.wire asset decimals ∧ kit.actor? mode = some actor ∧
          Body.Conveys actor.account party units tool asset t.body ∧ l.Goes n ∧
          (units : ℚ) = n.value * 10 ^ decimals.toNat ∧ (l.Kept → n.value = l.value) ∧
          |n.value - l.value| ≤ max (|l.value| / 2 ^ 52) (2 ^ (-1074 : Int))) ∧
    ((∃ t, tool.Produces kit mode input outside journal t) ∨
      tool.Fails kit mode input outside journal) := by
  refine ⟨fun t produced => ?_, produces_or_fails (changing_of_isPayment payment) clock⟩
  have written : ElementText (Text.trim input).toList (.object members) := by
    rwa [Text.trim, String.toList_ofList]
  obtain ⟨prepare, action, actor, i, asked, -, -, -, -⟩ :=
    exists_of_produces (changing_of_isPayment payment) clock produced
  obtain ⟨counted, given⟩ := given_of_isPayment payment asked
  have something : Text.trim input ≠ "" := by
    intro nothing
    rw [nothing] at written
    exact absurd written.length_pos (by decide)
  obtain ⟨raw, object⟩ := Parameters.parse_of_given given something
  obtain ⟨n, goes, amount⟩ := Json.lookup_of_written written stands object
  obtain ⟨value, text, asset, party, decimals, units, actor, found, spelled, asks, reported, means,
    acting, conveys⟩ := conveys_of_produces payment object clock produced
  cases found.symm.trans amount
  cases spelled with
  | number =>
      exact ⟨raw, asset, party, decimals, actor, units, n, object, asks, reported, acting,
        conveys, goes, Json.Number.value_of_means_plain means,
        fun kept => Literal.value_of_kept kept goes, Literal.value_near goes⟩

theorem conveys_written_twoAndAHalf :
    ∃ t units, LedgerTool.transferHbar.Produces Kit.unoperated none
        (String.ofList (transferText twoAndAHalf)) Kit.cutOff .empty t ∧
      Body.Conveys Kit.unoperated.account ⟨0, 0, 5006⟩ units .transferHbar none t.body ∧
      (units : ℚ) = 5 / 2 * 10 ^ 8 := by
  have reads : twoAndAHalf.parts.toNumber? = some (.real ⟨false, 5 * 2 ^ 50, -51⟩) := rfl
  have kept : twoAndAHalf.Kept := by
    refine .short (m := 25) (k := -1) (by norm_num) ?_ (.inr ?_)
    · rw [value_twoAndAHalf]
      norm_num
    · rw [value_twoAndAHalf]
      exact (zpow_le_one_of_nonpos₀ (by norm_num) (by norm_num)).trans (by norm_num)
  have written : ElementText (Text.trimmed (String.ofList (transferText twoAndAHalf)).toList)
      (.object (transferMembers twoAndAHalf)) := by
    rw [String.toList_ofList, trimmed_transferText]
    exact element_transferText _
  obtain ⟨t, produced, -⟩ := @exists_transferText _ _ 250000000 _ reads rfl rfl
  obtain ⟨raw, asset, party, decimals, actor, units, n, object, asks, reported, acting, conveys, -,
    counted, exact, -⟩ := (conveys_written .transferHbar Kit.unoperated none _ Kit.cutOff .empty rfl
      written rfl Kit.withinSecond_cutOff).1 t produced
  generalize Json.Number.real ⟨false, 5 * 2 ^ 50, -51⟩ = m at reads
  cases object.symm.trans (parse_transferText reads)
  have named : Parameters.Names [("amount", .number m), ("toAccountId", .string "0.0.5006")]
      "toAccountId" (⟨0, 0, 5006⟩ : AccountId) := ⟨_, rfl, rfl⟩
  obtain ⟨rfl, rfl⟩ := asks.unique (.hbarTransfer named)
  cases Option.some.inj acting
  cases reported
  refine ⟨t, units, produced, conveys, ?_⟩
  rw [counted, exact kept, value_twoAndAHalf]
  rfl

/-- Sixteen digits are too many: two amounts that differ in the last of them are moved as one. -/
theorem conveys_written_sixteen :
    (sixteen '3' (by decide)).value * 10 ^ 8 = 9007199254740993 ∧
    (sixteen '4' (by decide)).value * 10 ^ 8 = 9007199254740994 ∧
    (∃ t, LedgerTool.transferHbar.Produces Kit.unoperated none
        (String.ofList (transferText (sixteen '3' (by decide)))) Kit.cutOff .empty t ∧
      Body.Conveys Kit.unoperated.account ⟨0, 0, 5006⟩ 9007199254740994 .transferHbar none
        t.body) ∧
    ∃ t, LedgerTool.transferHbar.Produces Kit.unoperated none
        (String.ofList (transferText (sixteen '4' (by decide)))) Kit.cutOff .empty t ∧
      Body.Conveys Kit.unoperated.account ⟨0, 0, 5006⟩ 9007199254740994 .transferHbar none
        t.body := by
  have reads : (sixteen '3' (by decide)).parts.toNumber? =
      some (.real ⟨false, 6044629098073147, -26⟩) := rfl
  have reads' : (sixteen '4' (by decide)).parts.toNumber? =
      some (.real ⟨false, 6044629098073147, -26⟩) := rfl
  refine ⟨?_, ?_, ?_, ?_⟩
  · exact value_sixteen '3' _
  · exact value_sixteen '4' _
  · exact @exists_transferText _ _ 9007199254740994 _ reads rfl rfl
  · exact @exists_transferText _ _ 9007199254740994 _ reads' rfl rfl

end LedgerTool

end LedgerAgent
