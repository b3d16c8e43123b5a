/-
Module: LedgerAgent.Proofs.Amount.Display
Purpose: Amounts as they are displayed: the one numeral of their value that has nothing needless
  in it, which is read back as the same units.
Main exports: Amount.Canonical, Amount.Canonical.unique, Amount.Denotes,
  Amount.denotes_ofBaseUnits_iff, Amount.canonical_ofBaseUnits
-/
import LedgerAgent.Proofs.Json.Rendering
import LedgerAgent.Proofs.Json.Number
import Mathlib.Tactic.LinearCombination

namespace LedgerAgent.Amount

open Nat (ofDigitChars)
open Json (Digital Led)
open Text Text.Numeral

/-! ### Numbers and their numerals -/

/-- A text is a numeral of a number. -/
def Denotes (text : String) (value : ℚ) : Prop :=
  ∃ whole fraction, Spells text.toList whole fraction ∧ decimal whole fraction = value

/-- A text is a numeral of one number at most. -/
theorem Denotes.unique {text : String} {value value' : ℚ} (denotes : Denotes text value)
    (denotes' : Denotes text value') : value = value' := by
  obtain ⟨whole, fraction, spells, rfl⟩ := denotes
  obtain ⟨whole', fraction', spells', rfl⟩ := denotes'
  cases (numeral?_eq_some_iff.2 spells).symm.trans (numeral?_eq_some_iff.2 spells')
  rfl

/-- A numeral has nothing needless in it: no zero stands before other digits of its whole part or
at the end of its fraction, and no point without a fraction. -/
inductive Canonical : List Char → List Char → List Char → Prop where
  | integer {whole : List Char} (led : Led whole) : Canonical whole whole []
  | pointed {whole fraction : List Char} (led : Led whole) (digital : Digital fraction)
      (solid : fraction.getLast? ≠ some '0') :
      Canonical (whole ++ '.' :: fraction) whole fraction

namespace Canonical

variable {cs cs' whole whole' fraction fraction' : List Char}

theorem spells (canonical : Canonical cs whole fraction) : Spells cs whole fraction := by
  cases canonical with
  | integer led => exact .integer led.nonempty led.isDigit
  | pointed led digital solid => exact .pointed (.inl led.nonempty) led.isDigit digital.isDigit

theorem led (canonical : Canonical cs whole fraction) : Led whole := by
  cases canonical with
  | integer led => exact led
  | pointed led digital solid => exact led

theorem solid (canonical : Canonical cs whole fraction) : fraction.getLast? ≠ some '0' := by
  cases canonical with
  | integer led => exact nofun
  | pointed led digital solid => exact solid

/-- The digits on both sides of the point say where it is written. -/
theorem eq_of_parts (canonical : Canonical cs whole fraction)
    (canonical' : Canonical cs' whole fraction) : cs = cs' := by
  cases canonical with
  | integer led =>
      cases canonical' with
      | integer led' => rfl
      | pointed led' digital solid => exact absurd rfl digital.nonempty
  | pointed led digital solid =>
      cases canonical' with
      | integer led' => exact absurd rfl digital.nonempty
      | pointed led' digital' solid' => rfl

end Canonical

/-! ### One numeral for each number -/

/-- As many digits that come to the same number are the same digits. -/
theorem eq_of_ofDigitChars {ds es : List Char} (digital : ∀ c ∈ ds, isDigit c = true)
    (digital' : ∀ c ∈ es, isDigit c = true) (long : ds.length = es.length)
    (same : ofDigitChars 10 ds 0 = ofDigitChars 10 es 0) : ds = es := by
  -- The last digit is what a division by ten leaves.
  induction ds using List.reverseRecOn generalizing es with
  | nil => exact (List.length_eq_zero_iff.1 long.symm).symm
  | append_singleton ds d inductionHypothesis =>
      rcases List.eq_nil_or_concat es with rfl | ⟨es, e, rfl⟩
      · simp at long
      · rw [List.concat_eq_append] at digital' long same ⊢
        rw [List.forall_mem_append, List.forall_mem_singleton] at digital digital'
        have range := isDigit_iff.1 digital.2
        have range' := isDigit_iff.1 digital'.2
        have zero : '0'.toNat = 48 := rfl
        simp only [Nat.ofDigitChars_append, Nat.ofDigitChars_cons, Nat.ofDigitChars_nil, zero]
          at same
        simp only [List.length_append, List.length_singleton, Nat.add_right_cancel_iff] at long
        have front := inductionHypothesis digital.1 digital'.1 long (by omega)
        have last : d = e := Char.toNat_inj.1 (by omega)
        rw [front, last]

/-- Digits that do not begin with a needless zero come to a number of their length. -/
theorem pow_le_of_led {d : Char} {rest : List Char} (led : Led (d :: rest)) (more : rest ≠ []) :
    10 ^ rest.length ≤ ofDigitChars 10 (d :: rest) 0 := by
  have range := isDigit_iff.1 (led.isDigit d List.mem_cons_self)
  have nonzero : d.toNat ≠ 48 := by
    intro same
    have zero : d = '0' := Char.toNat_inj.1 same
    exact more (led.noZero rest (by rw [zero]))
  have first : 1 ≤ 10 * 0 + (d.toNat - '0'.toNat) := by
    have : '0'.toNat = 48 := rfl
    omega
  rw [Nat.ofDigitChars_cons, Nat.ofDigitChars_eq_ofDigitChars_zero]
  exact Nat.le_add_right_of_le (Nat.le_mul_of_pos_right _ first)

/-- Digits without needless zeros are no more than others of the same number. -/
theorem length_le_of_led {ds es : List Char} (led : Led ds) (led' : Led es)
    (same : ofDigitChars 10 ds 0 = ofDigitChars 10 es 0) : ds.length ≤ es.length := by
  by_contra longer
  have some_digit : 0 < es.length := List.length_pos_iff.2 led'.nonempty
  cases ds with
  | nil => exact led.nonempty rfl
  | cons d rest =>
      rw [List.length_cons] at longer
      have more : rest ≠ [] := List.length_pos_iff.1 (by omega)
      have low := pow_le_of_led led more
      have high := ofDigitChars_lt led'.isDigit
      have wider : 10 ^ es.length ≤ 10 ^ rest.length := Nat.pow_le_pow_right (by decide) (by omega)
      omega

/-- A number has one run of digits without needless zeros. -/
theorem eq_of_led {ds es : List Char} (led : Led ds) (led' : Led es)
    (same : ofDigitChars 10 ds 0 = ofDigitChars 10 es 0) : ds = es :=
  eq_of_ofDigitChars led.isDigit led'.isDigit
    (Nat.le_antisymm (length_le_of_led led led' same) (length_le_of_led led' led same.symm)) same

/-- Of the digits that are the same but for zeros behind them, those without a zero at the end
are the shortest. -/
theorem length_le_of_solid {ds es : List Char} {n m : Nat} (solid : ds.getLast? ≠ some '0')
    (same : ds ++ List.replicate n '0' = es ++ List.replicate m '0') : ds.length ≤ es.length := by
  by_contra longer
  obtain ⟨surplus, rfl⟩ : es <+: ds := by
    have front : es <+: ds ++ List.replicate n '0' := same ▸ List.prefix_append es _
    exact List.prefix_of_prefix_length_le front (List.prefix_append ds _) (by omega)
  rw [List.append_assoc, List.append_cancel_left_eq] at same
  rw [List.length_append] at longer
  have nonempty : surplus ≠ [] := List.length_pos_iff.1 (by omega)
  have last : surplus.getLast nonempty = '0' := by
    apply List.eq_of_mem_replicate (n := m)
    rw [← same]
    exact List.mem_append_left _ (List.getLast_mem nonempty)
  apply solid
  rw [List.getLast?_append_of_ne_nil _ nonempty, List.getLast?_eq_some_getLast nonempty, last]

/-- Digits that do not end in a zero are told apart even with zeros behind them. -/
theorem eq_of_solid {ds es : List Char} {n m : Nat} (solid : ds.getLast? ≠ some '0')
    (solid' : es.getLast? ≠ some '0')
    (same : ds ++ List.replicate n '0' = es ++ List.replicate m '0') : ds = es := by
  have long : ds.length = es.length :=
    Nat.le_antisymm (length_le_of_solid solid same) (length_le_of_solid solid' same.symm)
  exact List.append_inj_left same long

/-- What is behind the point is less than one, so the value tells the number before it. -/
theorem parts_of_decimal {whole fraction whole' fraction' : List Char}
    (digital : ∀ c ∈ fraction, isDigit c = true) (digital' : ∀ c ∈ fraction', isDigit c = true)
    (same : decimal whole fraction = decimal whole' fraction') :
    ofDigitChars 10 whole 0 = ofDigitChars 10 whole' 0 ∧
      ofDigitChars 10 fraction 0 * 10 ^ fraction'.length =
        ofDigitChars 10 fraction' 0 * 10 ^ fraction.length := by
  let unit := 10 ^ fraction.length * 10 ^ fraction'.length
  have positive : 0 < unit := Nat.mul_pos (Nat.pow_pos (by decide)) (Nat.pow_pos (by decide))
  have below : ofDigitChars 10 fraction 0 * 10 ^ fraction'.length < unit :=
    Nat.mul_lt_mul_of_pos_right (ofDigitChars_lt digital) (Nat.pow_pos (by decide))
  have below' : ofDigitChars 10 fraction' 0 * 10 ^ fraction.length < unit := by
    rw [show unit = 10 ^ fraction'.length * 10 ^ fraction.length from Nat.mul_comm _ _]
    exact Nat.mul_lt_mul_of_pos_right (ofDigitChars_lt digital') (Nat.pow_pos (by decide))
  have crossed : ofDigitChars 10 fraction 0 * 10 ^ fraction'.length +
      ofDigitChars 10 whole 0 * unit =
      ofDigitChars 10 fraction' 0 * 10 ^ fraction.length + ofDigitChars 10 whole' 0 * unit := by
    rw [decimal, decimal] at same
    field_simp at same
    have cast : ((ofDigitChars 10 fraction 0 * 10 ^ fraction'.length +
        ofDigitChars 10 whole 0 * unit : Nat) : ℚ) =
        (ofDigitChars 10 fraction' 0 * 10 ^ fraction.length +
          ofDigitChars 10 whole' 0 * unit : Nat) := by
      push_cast [unit]
      linear_combination same
    exact_mod_cast cast
  have wholes : ofDigitChars 10 whole 0 = ofDigitChars 10 whole' 0 := by
    have quotients := congrArg (· / unit) crossed
    simpa only [Nat.add_mul_div_right _ _ positive, Nat.div_eq_of_lt below,
      Nat.div_eq_of_lt below', Nat.zero_add] using quotients
  rw [wholes] at crossed
  exact ⟨wholes, Nat.add_right_cancel crossed⟩

/-- A number has one canonical numeral at most. -/
theorem Canonical.unique {cs cs' whole whole' fraction fraction' : List Char}
    (canonical : Canonical cs whole fraction) (canonical' : Canonical cs' whole' fraction')
    (same : decimal whole fraction = decimal whole' fraction') : cs = cs' := by
  obtain ⟨-, digital⟩ := canonical.spells.digital
  obtain ⟨-, digital'⟩ := canonical'.spells.digital
  obtain ⟨wholes, fractions⟩ := parts_of_decimal digital digital' same
  have filled : fraction ++ List.replicate fraction'.length '0' =
      fraction' ++ List.replicate fraction.length '0' := by
    apply eq_of_ofDigitChars
    · exact List.forall_mem_append.2 ⟨digital, Decimal.digital_replicate_zero _⟩
    · exact List.forall_mem_append.2 ⟨digital', Decimal.digital_replicate_zero _⟩
    · rw [List.length_append, List.length_append, List.length_replicate, List.length_replicate,
        Nat.add_comm]
    · rw [Decimal.ofDigitChars_append_zeros, Decimal.ofDigitChars_append_zeros, fractions]
  cases eq_of_led canonical.led canonical'.led wholes
  cases eq_of_solid canonical.solid canonical'.solid filled
  exact canonical.eq_of_parts canonical'

/-! ### What is displayed -/

theorem getLast_withoutTrailingZeros (cs : List Char) :
    (withoutTrailingZeros cs).getLast? ≠ some '0' := by
  intro zero
  have nonempty : withoutTrailingZeros cs ≠ [] := by
    intro empty
    rw [empty] at zero
    cases zero
  rw [List.getLast?_eq_some_getLast nonempty, Option.some.injEq] at zero
  have other : ¬ decide ((withoutTrailingZeros cs).getLast nonempty = '0') = true :=
    List.rdropWhile_last_not (· = '0') cs nonempty
  exact other (decide_eq_true zero)

/-- Only zeros are left off. -/
theorem exists_zeros_of_withoutTrailingZeros (cs : List Char) :
    ∃ n, cs = withoutTrailingZeros cs ++ List.replicate n '0' := by
  let zeros := cs.rtakeWhile (· = '0')
  have apart : withoutTrailingZeros cs ++ zeros = cs := List.rdropWhile_append_rtakeWhile
  have nothingElse : zeros = List.replicate zeros.length '0' := by
    rw [List.eq_replicate_iff]
    exact ⟨rfl, fun c member =>
      of_decide_eq_true (@List.mem_rtakeWhile_imp Char (· = '0') cs c member)⟩
  exact ⟨zeros.length, by rw [← nothingElse, apart]⟩

/-- The number of decimal places that a displayed amount is counted with. -/
def shownPlaces (decimals : UInt32) : Nat :=
  min decimals.toNat 18

/-- What is behind the point of a displayed amount: digits of the remainder, and no zero at their
end. -/
theorem fraction_ofBaseUnits {places remainder : Nat} (below : remainder < 10 ^ places)
    (nonzero : remainder ≠ 0) :
    Digital (withoutTrailingZeros (padded places remainder)) ∧
      (withoutTrailingZeros (padded places remainder)).length ≤ places ∧
      ∀ whole, decimal (digits whole) (withoutTrailingZeros (padded places remainder)) =
        (whole * 10 ^ places + remainder : Nat) / 10 ^ places := by
  let fraction := withoutTrailingZeros (padded places remainder)
  obtain ⟨zeros, written⟩ : ∃ n, padded places remainder = fraction ++ List.replicate n '0' :=
    exists_zeros_of_withoutTrailingZeros _
  have positive : 0 < places := by
    rw [Nat.pos_iff_ne_zero]
    rintro rfl
    omega
  have long : fraction.length + zeros = places := by
    rw [← length_padded positive below, written, List.length_append, List.length_replicate]
  have value : ofDigitChars 10 fraction 0 * 10 ^ zeros = remainder := by
    rw [← Decimal.ofDigitChars_append_zeros, ← written, ofDigitChars_padded]
  refine ⟨⟨?_, ?_⟩, Nat.le.intro long, ?_⟩
  · intro empty
    rw [show fraction = [] from empty, Nat.ofDigitChars_nil, Nat.zero_mul] at value
    exact nonzero value.symm
  · intro c member
    have member' : c ∈ padded places remainder := written ▸ List.mem_append_left _ member
    exact isDigit_of_mem_padded member'
  · intro whole
    change decimal (digits whole) fraction = _
    rw [decimal, ofDigitChars_digits, ← value, ← long, pow_add]
    push_cast
    field_simp
    ring

/-- An amount is displayed as a canonical numeral of its units in the places that are counted. -/
theorem exists_canonical_ofBaseUnits (units : UInt64) (decimals : UInt32) :
    ∃ whole fraction, Canonical (ofBaseUnits units decimals).toList whole fraction ∧
      fraction.length ≤ shownPlaces decimals ∧
      decimal whole fraction = units.toNat / 10 ^ shownPlaces decimals := by
  let unit := 10 ^ shownPlaces decimals
  have divided : units.toNat / unit * unit + units.toNat % unit = units.toNat :=
    Nat.div_add_mod' _ _
  by_cases even : units.toNat % unit = 0
  · have shown : ofBaseUnits units decimals = String.ofList (digits (units.toNat / unit)) :=
      if_pos even
    refine ⟨digits (units.toNat / unit), [], ?_, Nat.zero_le _, ?_⟩
    · rw [shown, String.toList_ofList]
      exact .integer (Json.led_digits _)
    · rw [even, Nat.add_zero] at divided
      rw [decimal, ofDigitChars_digits, Nat.ofDigitChars_nil, Nat.cast_zero, zero_div, add_zero,
        eq_div_iff (by positivity)]
      exact_mod_cast divided
  · have shown : ofBaseUnits units decimals = String.ofList (digits (units.toNat / unit) ++
        '.' :: withoutTrailingZeros (padded (shownPlaces decimals) (units.toNat % unit))) :=
      if_neg even
    obtain ⟨digital, long, value⟩ :=
      fraction_ofBaseUnits (Nat.mod_lt units.toNat (Nat.pow_pos (by decide))) even
    refine ⟨digits (units.toNat / unit), _, ?_, long, ?_⟩
    · rw [shown, String.toList_ofList]
      exact .pointed (Json.led_digits _) digital (getLast_withoutTrailingZeros _)
    · rw [value, divided]

/-- What is displayed is a numeral of the units in the places that are counted. -/
theorem denotes_ofBaseUnits (units : UInt64) (decimals : UInt32) :
    Denotes (ofBaseUnits units decimals) (units.toNat / 10 ^ shownPlaces decimals) := by
  obtain ⟨whole, fraction, canonical, -, value⟩ := exists_canonical_ofBaseUnits units decimals
  exact ⟨whole, fraction, canonical.spells, value⟩

/-- An amount is displayed as it is exactly where all of its places are counted, or nothing is
there to be counted. -/
theorem denotes_ofBaseUnits_iff {units : UInt64} {decimals : UInt32} :
    Denotes (ofBaseUnits units decimals) (units.toNat / 10 ^ decimals.toNat) ↔
      decimals.toNat ≤ 18 ∨ units = 0 := by
  constructor
  · intro denotes
    by_cases supported : decimals.toNat ≤ 18
    · exact .inl supported
    · refine .inr (UInt64.toNat_inj.1 ?_)
      have same := denotes.unique (denotes_ofBaseUnits units decimals)
      rw [div_eq_div_iff (by positivity) (by positivity)] at same
      have crossed :
          units.toNat * 10 ^ shownPlaces decimals = units.toNat * 10 ^ decimals.toNat := by
        exact_mod_cast same
      have wider : 10 ^ shownPlaces decimals < 10 ^ decimals.toNat :=
        Nat.pow_lt_pow_right (by decide) (by rw [shownPlaces]; omega)
      by_contra some_units
      exact wider.ne (Nat.eq_of_mul_eq_mul_left (Nat.pos_of_ne_zero some_units) crossed)
  · intro counted
    have shown := denotes_ofBaseUnits units decimals
    rcases counted with supported | rfl
    · rwa [shownPlaces, Nat.min_eq_left supported] at shown
    · simpa only [UInt64.toNat_zero, Nat.cast_zero, zero_div] using shown

/-! ### Back to units -/

/-- What is displayed of an amount is read back as its units. -/
theorem toBaseUnits_ofBaseUnits {units : UInt64} {decimals : UInt32}
    (supported : decimals.toNat ≤ 18) :
    toBaseUnits (ofBaseUnits units decimals) decimals = .ok units := by
  obtain ⟨whole, fraction, canonical, long, value⟩ := exists_canonical_ofBaseUnits units decimals
  rw [shownPlaces, Nat.min_eq_left supported] at long value
  rw [toBaseUnits_eq_ok_iff]
  refine ⟨supported, whole, fraction, ?_, long, ?_⟩
  · rw [Json.trimmed_of_spells canonical.spells]
    exact canonical.spells
  · rw [value, div_mul_cancel₀ _ (by positivity)]

/-- To display an amount and to read one are inverse to each other.  What is displayed is read
back as the same units; and of all the numerals of the number that a text with these units
spells, what is displayed is the canonical one. -/
theorem canonical_ofBaseUnits {units : UInt64} {decimals : UInt32}
    (supported : decimals.toNat ≤ 18) :
    toBaseUnits (ofBaseUnits units decimals) decimals = .ok units ∧
      ∀ text, toBaseUnits text decimals = .ok units →
        ∃ whole fraction, Spells (trimmed text.toList) whole fraction ∧
          ∀ other : String,
            (∃ whole' fraction', Canonical other.toList whole' fraction' ∧
              decimal whole' fraction' = decimal whole fraction) ↔
            other = ofBaseUnits units decimals := by
  refine ⟨toBaseUnits_ofBaseUnits supported, fun text read => ?_⟩
  obtain ⟨-, whole, fraction, spells, -, worth⟩ := toBaseUnits_eq_ok_iff.1 read
  obtain ⟨whole₁, fraction₁, canonical, -, value⟩ := exists_canonical_ofBaseUnits units decimals
  have same : decimal whole₁ fraction₁ = decimal whole fraction := by
    rw [value, shownPlaces, Nat.min_eq_left supported, div_eq_iff (by positivity), worth]
  refine ⟨whole, fraction, spells, fun other => ⟨?_, ?_⟩⟩
  · rintro ⟨whole', fraction', canonical', same'⟩
    exact String.toList_inj.1 (canonical'.unique canonical (same'.trans same.symm))
  · rintro rfl
    exact ⟨whole₁, fraction₁, canonical, same⟩

/-- A text with needless zeros on both sides. -/
theorem canonical_ofBaseUnits_needless :
    (6 : UInt32).toNat ≤ 18 ∧ toBaseUnits " 001.050000" 6 = .ok 1050000 ∧
      ofBaseUnits 1050000 6 = "1.05" ∧
      ∃ whole fraction, Spells (trimmed " 001.050000".toList) whole fraction ∧
        ∀ other : String,
          (∃ whole' fraction', Canonical other.toList whole' fraction' ∧
            decimal whole' fraction' = decimal whole fraction) ↔
          other = ofBaseUnits 1050000 6 := by
  have supported : (6 : UInt32).toNat ≤ 18 := by decide
  have read : toBaseUnits " 001.050000" 6 = .ok 1050000 := by decide +kernel
  exact ⟨supported, read, by decide +kernel, (canonical_ofBaseUnits supported).2 _ read⟩

end LedgerAgent.Amount
