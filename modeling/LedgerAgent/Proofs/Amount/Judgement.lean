/-
Module: LedgerAgent.Proofs.Amount.Judgement
Purpose: What becomes of every text that is taken for an amount: the units that it means, or the
  first of its faults; and that words of 128 bits are wide enough to find out.
Main exports: Amount.Judged, Amount.toBaseUnits_eq_iff, Amount.Unwrapped,
  Amount.judged_toBaseUnits
-/
import LedgerAgent.Proofs.Amount

namespace LedgerAgent.Amount

open Nat (ofDigitChars)
open Text Text.Numeral

/-! ### Faults in their order -/

/-- A text is a numeral whose units are reckoned: neither its decimal places nor its whole part
are too many for that. -/
structure Reckoned (text : String) (decimals : UInt32) (whole fraction : List Char) : Prop where
  supported : decimals.toNat ≤ 18
  spells : Spells (trimmed text.toList) whole fraction
  within : ofDigitChars 10 whole 0 < 2 ^ 128
  fine : fraction.length ≤ decimals.toNat

/-- The verdict on a text at a number of decimal places.  Each fault is told only where none of
those before it stands in the way. -/
inductive Judged (text : String) (decimals : UInt32) : Except AmountError UInt64 → Prop where
  | unsupported (past : 18 < decimals.toNat) :
      Judged text decimals (.error (.unsupportedDecimals decimals))
  | shapeless (supported : decimals.toNat ≤ 18)
      (unspelled : ∀ whole fraction, ¬ Spells (trimmed text.toList) whole fraction) :
      Judged text decimals (.error (.invalidFormat (trim text)))
  | vast {whole fraction : List Char} (supported : decimals.toNat ≤ 18)
      (spells : Spells (trimmed text.toList) whole fraction)
      (beyond : 2 ^ 128 ≤ ofDigitChars 10 whole 0) :
      Judged text decimals (.error .overflow)
  | tooFine {whole fraction : List Char} (supported : decimals.toNat ≤ 18)
      (spells : Spells (trimmed text.toList) whole fraction)
      (within : ofDigitChars 10 whole 0 < 2 ^ 128) (surplus : decimals.toNat < fraction.length) :
      Judged text decimals (.error (.tooManyDecimals decimals))
  | large {whole fraction : List Char} (reckoned : Reckoned text decimals whole fraction)
      (beyond : (2 : ℚ) ^ 64 ≤ decimal whole fraction * 10 ^ decimals.toNat) :
      Judged text decimals (.error .overflow)
  | exact {units : UInt64} (means : Means text decimals units.toNat) :
      Judged text decimals (.ok units)

/-- With a number of decimal places that is supported, the text is looked at. -/
theorem toBaseUnits_of_supported {text : String} {decimals : UInt32}
    (supported : decimals.toNat ≤ 18) :
    toBaseUnits text decimals =
      match numeral? (trimmed text.toList) with
      | none => .error (.invalidFormat (trim text))
      | some (whole, fraction) =>
        match digitsBelow? (Nat.pow 2 128) whole with
        | none => .error .overflow
        | some w =>
          if decimals.toNat < fraction.length then .error (.tooManyDecimals decimals)
          else
            let f := (digitsBelow? (Nat.pow 2 128) (padRight decimals.toNat fraction)).getD 0
            let total := w * Nat.pow 10 decimals.toNat + f
            if total < Nat.pow 2 64 then .ok (UInt64.ofNat total) else .error .overflow :=
  if_neg (mt UInt32.lt_iff_toNat_lt.1 (Nat.not_lt.2 supported))

/-- Digits are refused below a limit exactly if their number reaches it. -/
theorem digitsBelow?_eq_none_iff {limit : Nat} {ds : List Char} (positive : 0 < limit)
    (digital : ∀ c ∈ ds, isDigit c = true) :
    digitsBelow? limit ds = none ↔ limit ≤ ofDigitChars 10 ds 0 := by
  rw [Option.eq_none_iff_forall_ne_some]
  constructor
  · intro never
    by_contra below
    exact never _ ((digitsBelow?_eq_some_iff positive digital).2 ⟨rfl, Nat.lt_of_not_le below⟩)
  · intro large n found
    obtain ⟨rfl, below⟩ := (digitsBelow?_eq_some_iff positive digital).1 found
    exact Nat.not_lt.2 large below

/-- The verdict is what the conversion answers. -/
theorem Judged.toBaseUnits_eq {text : String} {decimals : UInt32}
    {result : Except AmountError UInt64} (judged : Judged text decimals result) :
    toBaseUnits text decimals = result := by
  have wide : 0 < Nat.pow 2 128 := Nat.pow_pos (by decide)
  cases judged with
  | unsupported past =>
      have past : maxDecimals < decimals := UInt32.lt_iff_toNat_lt.2 past
      rw [toBaseUnits, if_pos past]
  | shapeless supported unspelled =>
      have missing : numeral? (trimmed text.toList) = none := by
        rw [Option.eq_none_iff_forall_ne_some]
        rintro ⟨whole, fraction⟩ found
        exact unspelled whole fraction (numeral?_eq_some_iff.1 found)
      rw [toBaseUnits_of_supported supported, missing]
  | vast supported spells beyond =>
      have past := (digitsBelow?_eq_none_iff wide spells.digital.1).2 beyond
      simp only [toBaseUnits_of_supported supported, numeral?_eq_some_iff.2 spells, past]
  | tooFine supported spells within surplus =>
      have read := (digitsBelow?_eq_some_iff wide spells.digital.1).2 ⟨rfl, within⟩
      simp only [toBaseUnits_of_supported supported, numeral?_eq_some_iff.2 spells, read]
      rw [if_pos surplus]
  | large reckoned beyond =>
      rw [← unitsOf_eq reckoned.fine] at beyond
      have past : ¬ unitsOf decimals.toNat _ _ < 2 ^ 64 := Nat.not_lt.2 (by exact_mod_cast beyond)
      rw [toBaseUnits_of_spells reckoned.supported reckoned.spells reckoned.fine, if_neg past]
  | exact means => exact toBaseUnits_eq_ok_iff.2 means

/-- Every text gets a verdict at every number of decimal places. -/
theorem exists_judged (text : String) (decimals : UInt32) :
    ∃ result, Judged text decimals result := by
  by_cases supported : decimals.toNat ≤ 18
  · by_cases spelled : ∃ whole fraction, Spells (trimmed text.toList) whole fraction
    · obtain ⟨whole, fraction, spells⟩ := spelled
      by_cases within : ofDigitChars 10 whole 0 < 2 ^ 128
      · by_cases fine : fraction.length ≤ decimals.toNat
        · let units := unitsOf decimals.toNat whole fraction
          have counted : (units : ℚ) = decimal whole fraction * 10 ^ decimals.toNat :=
            unitsOf_eq fine
          by_cases small : units < 2 ^ 64
          · have means : Means text decimals (UInt64.ofNat units).toNat := by
              rw [UInt64.toNat_ofNat_of_lt' small]
              exact ⟨supported, whole, fraction, spells, fine, counted⟩
            exact ⟨_, .exact means⟩
          · refine ⟨_, .large ⟨supported, spells, within, fine⟩ ?_⟩
            rw [← counted]
            exact_mod_cast Nat.not_lt.1 small
        · exact ⟨_, .tooFine supported spells within (Nat.lt_of_not_le fine)⟩
      · exact ⟨_, .vast supported spells (Nat.not_lt.1 within)⟩
    · push Not at spelled
      exact ⟨_, .shapeless supported spelled⟩
  · exact ⟨_, .unsupported (Nat.lt_of_not_le supported)⟩

/-- What a text is converted to and how it is judged are the same. -/
theorem toBaseUnits_eq_iff {text : String} {decimals : UInt32}
    {result : Except AmountError UInt64} :
    toBaseUnits text decimals = result ↔ Judged text decimals result := by
  constructor
  · rintro rfl
    obtain ⟨result, judged⟩ := exists_judged text decimals
    rw [judged.toBaseUnits_eq]
    exact judged
  · exact Judged.toBaseUnits_eq

/-! ### Words of 128 bits -/

/-- The number of a run of digits, as far as a word holds it. -/
def wordOf (ds : List Char) : BitVec 128 :=
  BitVec.ofNat 128 (ofDigitChars 10 ds 0)

/-- The units of a numeral reckoned in words.  The power wraps around where it does not fit
its word; the product and the sum would too, but are given up there. -/
def total? (places : Nat) (whole fraction : BitVec 128) : Option (BitVec 128) :=
  let scale := 10#128 ^ places
  if whole.umulOverflow scale then none
  else if (whole * scale).uaddOverflow fraction then none
  else some (whole * scale + fraction)

/-- Units that are reckoned in words have to fit 64 bits. -/
def settled : Option (BitVec 128) → Except AmountError UInt64
  | none => .error .overflow
  | some total => if total.toNat < 2 ^ 64 then .ok (UInt64.ofNat total.toNat) else .error .overflow

/-- Nothing that is reckoned in words on the way from a numeral to its units wraps around: each
number is the exact one, and the last is given up only where that does not fit a word. -/
structure Unwrapped (places : Nat) (whole fraction : List Char) : Prop where
  wholeWord : (wordOf whole).toNat = ofDigitChars 10 whole 0
  fractionWord : (wordOf (padRight places fraction)).toNat =
    ofDigitChars 10 fraction 0 * 10 ^ (places - fraction.length)
  scale : (10#128 ^ places).toNat = 10 ^ places
  total : (total? places (wordOf whole) (wordOf (padRight places fraction))).map BitVec.toNat =
    if unitsOf places whole fraction < 2 ^ 128 then some (unitsOf places whole fraction) else none

/-- The size of a unit fits a word of 128 bits for all supported places. -/
theorem toNat_scale {places : Nat} (supported : places ≤ 18) :
    (10#128 ^ places).toNat = 10 ^ places := by
  have room : 10 ^ 18 < 2 ^ 128 := by decide
  induction places with
  | zero => rfl
  | succ places inductionHypothesis =>
      have fits : 10 ^ (places + 1) ≤ 10 ^ 18 := Nat.pow_le_pow_right (by decide) supported
      rw [Nat.pow_succ] at fits ⊢
      rw [BitVec.pow_succ, BitVec.toNat_mul, inductionHypothesis (Nat.le_of_succ_le supported)]
      exact Nat.mod_eq_of_lt (Nat.lt_of_le_of_lt fits room)

theorem toNat_wordOf {ds : List Char} (fits : ofDigitChars 10 ds 0 < 2 ^ 128) :
    (wordOf ds).toNat = ofDigitChars 10 ds 0 := by
  rw [wordOf, BitVec.toNat_ofNat, Nat.mod_eq_of_lt fits]

/-- Reckoning in words is exact, or given up for want of room. -/
theorem map_toNat_total? {places : Nat} (supported : places ≤ 18) (whole fraction : BitVec 128) :
    (total? places whole fraction).map BitVec.toNat =
      if whole.toNat * 10 ^ places + fraction.toNat < 2 ^ 128 then
        some (whole.toNat * 10 ^ places + fraction.toNat)
      else none := by
  have scale := toNat_scale supported
  rw [total?]
  by_cases product : whole.umulOverflow (10#128 ^ places) = true
  · have beyond : 2 ^ 128 ≤ whole.toNat * 10 ^ places := by
      simpa [BitVec.umulOverflow, scale] using product
    rw [if_pos product, if_neg (by omega)]
    rfl
  · have exactly := BitVec.toNat_mul_of_not_umulOverflow product
    rw [scale] at exactly
    rw [if_neg product]
    by_cases sum : (whole * 10#128 ^ places).uaddOverflow fraction = true
    · have beyond : 2 ^ 128 ≤ whole.toNat * 10 ^ places + fraction.toNat := by
        rwa [BitVec.uaddOverflow, exactly, decide_eq_true_eq] at sum
      rw [if_pos sum, if_neg (Nat.not_lt.2 beyond)]
      rfl
    · have within : whole.toNat * 10 ^ places + fraction.toNat < 2 ^ 128 := by
        rwa [BitVec.uaddOverflow, exactly, decide_eq_true_eq, ge_iff_le, Nat.not_le] at sum
      rw [if_neg sum, if_pos within, Option.map_some, BitVec.toNat_add_of_not_uaddOverflow sum,
        exactly]

/-- Nothing that is reckoned in words wraps around. -/
theorem Reckoned.unwrapped {text : String} {decimals : UInt32} {whole fraction : List Char}
    (reckoned : Reckoned text decimals whole fraction) :
    Unwrapped decimals.toNat whole fraction := by
  have filled : ofDigitChars 10 (padRight decimals.toNat fraction) 0 =
      ofDigitChars 10 fraction 0 * 10 ^ (decimals.toNat - fraction.length) :=
    ofDigitChars_padRight fraction
  have small : ofDigitChars 10 (padRight decimals.toNat fraction) 0 < 2 ^ 128 := by
    have digital : ∀ c ∈ padRight decimals.toNat fraction, isDigit c = true :=
      digital_padRight reckoned.spells.digital.2
    have short := ofDigitChars_lt digital
    rw [length_padRight reckoned.fine] at short
    have wide : 10 ^ decimals.toNat ≤ 10 ^ 18 :=
      Nat.pow_le_pow_right (by decide) reckoned.supported
    exact Nat.lt_trans (Nat.lt_of_lt_of_le short wide) (by decide)
  have wholeWord := toNat_wordOf reckoned.within
  have fractionWord := (toNat_wordOf small).trans filled
  refine ⟨wholeWord, fractionWord, toNat_scale reckoned.supported, ?_⟩
  rw [map_toNat_total? reckoned.supported, wholeWord, fractionWord, unitsOf]

/-- Units reckoned in words, where they fit 64 bits, are what the conversion answers. -/
theorem Reckoned.toBaseUnits_eq {text : String} {decimals : UInt32} {whole fraction : List Char}
    (reckoned : Reckoned text decimals whole fraction) :
    toBaseUnits text decimals =
      settled (total? decimals.toNat (wordOf whole)
        (wordOf (padRight decimals.toNat fraction))) := by
  have total := reckoned.unwrapped.total
  have room : 2 ^ 64 ≤ 2 ^ 128 := by decide
  rw [toBaseUnits_of_spells reckoned.supported reckoned.spells reckoned.fine]
  cases found : total? decimals.toNat (wordOf whole)
      (wordOf (padRight decimals.toNat fraction)) with
  | none =>
      have beyond : ¬ unitsOf decimals.toNat whole fraction < 2 ^ 128 := by
        intro fits
        rw [found, if_pos fits] at total
        cases total
      rw [if_neg (fun small => beyond (Nat.lt_of_lt_of_le small room))]
      rfl
  | some word =>
      rw [found, Option.map_some] at total
      split at total
      · rw [settled, Option.some.inj total]
      · cases total

/-! ### The verdict -/

/-- The conversion to base units is exact decimal arithmetic, and refuses a text for the first of
its faults; on the way no number wraps around the 128 bits that it is reckoned in. -/
theorem judged_toBaseUnits (text : String) (decimals : UInt32) :
    (∀ result, toBaseUnits text decimals = result ↔ Judged text decimals result) ∧
      ∀ whole fraction, Reckoned text decimals whole fraction →
        Unwrapped decimals.toNat whole fraction ∧
          toBaseUnits text decimals =
            settled (total? decimals.toNat (wordOf whole)
              (wordOf (padRight decimals.toNat fraction))) := by
  constructor
  · intro result
    exact toBaseUnits_eq_iff
  · intro whole fraction reckoned
    exact ⟨reckoned.unwrapped, reckoned.toBaseUnits_eq⟩

/-- The least amount of the ledger's own currency that does not fit 64 bits. -/
theorem judged_toBaseUnits_pastRoom :
    Reckoned " 184467440737.09551616" 8 "184467440737".toList "09551616".toList ∧
      Unwrapped 8 "184467440737".toList "09551616".toList ∧
      toBaseUnits " 184467440737.09551616" 8 = .error .overflow := by
  have spells : Spells (trimmed " 184467440737.09551616".toList) "184467440737".toList
      "09551616".toList :=
    numeral?_eq_some_iff.1 (by decide)
  have reckoned : Reckoned " 184467440737.09551616" 8 "184467440737".toList "09551616".toList :=
    ⟨by decide, spells, by decide, by decide⟩
  have units : unitsOf 8 "184467440737".toList "09551616".toList = 2 ^ 64 := by decide
  have beyond : (2 : ℚ) ^ 64 ≤ decimal "184467440737".toList "09551616".toList * 10 ^ 8 := by
    rw [← unitsOf_eq (by decide), units]
    norm_num
  obtain ⟨verdict, inWords⟩ := judged_toBaseUnits " 184467440737.09551616" 8
  exact ⟨reckoned, (inWords _ _ reckoned).1, (verdict _).2 (.large reckoned beyond)⟩

end LedgerAgent.Amount
