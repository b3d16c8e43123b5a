/-
Module: LedgerAgent.Proofs.Amount
Purpose: What amounts mean: the numerals that are accepted, their base units, and the signed
  numbers that move.
Main exports: Amount.Spells, Amount.decimal, Amount.Means, Amount.toBaseUnits_eq_ok_iff,
  Amount.toSigned_eq_ok_iff
-/
import LedgerAgent.Amount
import LedgerAgent.Proofs.Identifier
import Mathlib.Data.Rat.Cast.Order
import Mathlib.Tactic.FieldSimp
import Mathlib.Tactic.Ring

namespace LedgerAgent.Amount

open Nat (ofDigitChars)
open Text Text.Numeral

/-! ### Numerals -/

/-- A text is an unsigned decimal numeral with these digits before and behind its point.
The point may be missing, and so may the digits on one side of it. -/
inductive Spells : List Char → List Char → List Char → Prop where
  | integer {whole : List Char} (nonempty : whole ≠ []) (digital : ∀ c ∈ whole, isDigit c = true) :
      Spells whole whole []
  | pointed {whole fraction : List Char} (nonempty : whole ≠ [] ∨ fraction ≠ [])
      (digital : ∀ c ∈ whole, isDigit c = true) (digital' : ∀ c ∈ fraction, isDigit c = true) :
      Spells (whole ++ '.' :: fraction) whole fraction

/-- What stands before and behind the point of a numeral is digits alone. -/
theorem Spells.digital {cs whole fraction : List Char} (spells : Spells cs whole fraction) :
    (∀ c ∈ whole, isDigit c = true) ∧ ∀ c ∈ fraction, isDigit c = true := by
  cases spells with
  | integer nonempty digital => exact ⟨digital, nofun⟩
  | pointed nonempty digital digital' => exact ⟨digital, digital'⟩

/-- The number that is written with these digits before and behind a point. -/
def decimal (whole fraction : List Char) : ℚ :=
  ofDigitChars 10 whole 0 + ofDigitChars 10 fraction 0 / 10 ^ fraction.length

/-- The digits before and behind a point are those of one number of the last place. -/
theorem decimal_eq (whole fraction : List Char) :
    decimal whole fraction = ofDigitChars 10 (whole ++ fraction) 0 / 10 ^ fraction.length := by
  have apart : ofDigitChars 10 fraction (ofDigitChars 10 whole 0) =
      10 ^ fraction.length * ofDigitChars 10 whole 0 + ofDigitChars 10 fraction 0 :=
    Nat.ofDigitChars_eq_ofDigitChars_zero
  rw [decimal, Nat.ofDigitChars_append, apart]
  push_cast
  field_simp

theorem point_not_mem {ds : List Char} (digital : ∀ c ∈ ds, isDigit c = true) : '.' ∉ ds :=
  fun member => absurd (digital '.' member) (by decide)

/-- Parts are a numeral's if there is a digit in one of them and nothing else in either. -/
theorem judged_eq_some_iff {ws fs whole fraction : List Char} :
    (if ws.isEmpty && fs.isEmpty then none
      else if ws.all isDigit && fs.all isDigit then some (ws, fs) else none) =
        some (whole, fraction) ↔
      ws = whole ∧ fs = fraction ∧ (whole ≠ [] ∨ fraction ≠ []) ∧
        (∀ c ∈ whole, isDigit c = true) ∧ ∀ c ∈ fraction, isDigit c = true := by
  constructor
  · intro judged
    split at judged
    · cases judged
    · rename_i nonempty
      split at judged
      · rename_i digital
        cases judged
        simp only [Bool.and_eq_true, List.isEmpty_iff, not_and_or, List.all_eq_true]
          at nonempty digital
        exact ⟨rfl, rfl, nonempty, digital.1, digital.2⟩
      · cases judged
  · rintro ⟨rfl, rfl, nonempty, digital, digital'⟩
    rw [if_neg, if_pos]
    · simp only [Bool.and_eq_true, List.all_eq_true]
      exact ⟨digital, digital'⟩
    · simpa only [Bool.and_eq_true, List.isEmpty_iff, not_and_or] using nonempty

/-- The parts of a text are found exactly if it is a numeral with these parts. -/
theorem numeral?_eq_some_iff {cs whole fraction : List Char} :
    numeral? cs = some (whole, fraction) ↔ Spells cs whole fraction := by
  rw [numeral?]
  constructor
  · cases cut : cutAt '.' cs with
    | none =>
        intro found
        obtain ⟨rfl, rfl, nonempty, digital, -⟩ := judged_eq_some_iff.1 found
        exact .integer (nonempty.resolve_right (· rfl)) digital
    | some parts =>
        intro found
        obtain ⟨rfl, rfl, nonempty, digital, digital'⟩ := judged_eq_some_iff.1 found
        rw [eq_of_cutAt cut]
        exact .pointed nonempty digital digital'
  · intro spells
    cases spells with
    | integer nonempty digital =>
        rw [cutAt_of_not_mem (point_not_mem digital)]
        exact judged_eq_some_iff.2 ⟨rfl, rfl, .inl nonempty, digital, nofun⟩
    | pointed nonempty digital digital' =>
        rw [cutAt_append _ (point_not_mem digital)]
        exact judged_eq_some_iff.2 ⟨rfl, rfl, nonempty, digital, digital'⟩

/-! ### Base units -/

/-- Digits are read below a limit exactly if their number is below it. -/
theorem digitsBelow?_eq_some_iff {limit n : Nat} {ds : List Char} (positive : 0 < limit)
    (digital : ∀ c ∈ ds, isDigit c = true) :
    digitsBelow? limit ds = some n ↔ ofDigitChars 10 ds 0 = n ∧ n < limit := by
  have read : extend limit .tooLarge 0 ds = .ok n ↔ _ := extend_eq_ok_iff positive
  rw [and_iff_right digital] at read
  rw [← read, digitsBelow?]
  cases extend limit .tooLarge 0 ds <;> simp [Except.toOption]

/-- A fraction that is filled up to a width counts units of that decimal place. -/
theorem ofDigitChars_padRight {width : Nat} (fraction : List Char) :
    ofDigitChars 10 (padRight width fraction) 0 =
      ofDigitChars 10 fraction 0 * 10 ^ (width - fraction.length) := by
  have zeros : ∀ (n value : Nat),
      ofDigitChars 10 (List.replicate n '0') value = value * 10 ^ n := by
    intro n
    induction n with
    | zero => simp
    | succ n inductionHypothesis =>
        intro value
        rw [List.replicate_succ, Nat.ofDigitChars_cons, inductionHypothesis, pow_succ]
        simp
        ring
  rw [padRight, Nat.ofDigitChars_append, zeros]

theorem digital_padRight {width : Nat} {fraction : List Char}
    (digital : ∀ c ∈ fraction, isDigit c = true) :
    ∀ c ∈ padRight width fraction, isDigit c = true := by
  intro c member
  obtain own | zero := List.mem_append.1 member
  · exact digital c own
  · rw [List.eq_of_mem_replicate zero]
    decide

theorem length_padRight {width : Nat} {fraction : List Char} (fine : fraction.length ≤ width) :
    (padRight width fraction).length = width := by
  rw [padRight, List.length_append, List.length_replicate]
  omega

/-- The units of a numeral: its whole part counts ten to the `places`, and its fraction as
many units as it has digits filled up to the places. -/
def unitsOf (places : Nat) (whole fraction : List Char) : Nat :=
  ofDigitChars 10 whole 0 * 10 ^ places +
    ofDigitChars 10 fraction 0 * 10 ^ (places - fraction.length)

/-- The base units of a spelled amount are the amount times the size of a unit. -/
theorem unitsOf_eq {places : Nat} {whole fraction : List Char} (fine : fraction.length ≤ places) :
    (unitsOf places whole fraction : ℚ) = decimal whole fraction * 10 ^ places := by
  have split : (10 : ℚ) ^ places = 10 ^ (places - fraction.length) * 10 ^ fraction.length := by
    rw [← pow_add, Nat.sub_add_cancel fine]
  rw [unitsOf, decimal]
  push_cast
  rw [split]
  field_simp

/-- What a numeral with no more places than are counted comes to. -/
theorem toBaseUnits_of_spells {text : String} {decimals : UInt32} {whole fraction : List Char}
    (supported : decimals.toNat ≤ 18) (spells : Spells (trimmed text.toList) whole fraction)
    (fine : fraction.length ≤ decimals.toNat) :
    toBaseUnits text decimals =
      if unitsOf decimals.toNat whole fraction < 2 ^ 64 then
        .ok (UInt64.ofNat (unitsOf decimals.toNat whole fraction))
      else .error .overflow := by
  obtain ⟨digital, digital'⟩ := spells.digital
  have fraction_value : digitsBelow? (Nat.pow 2 128) (padRight decimals.toNat fraction) =
      some (ofDigitChars 10 fraction 0 * 10 ^ (decimals.toNat - fraction.length)) := by
    rw [digitsBelow?_eq_some_iff (by decide) (digital_padRight digital'), ofDigitChars_padRight]
    have short := ofDigitChars_lt (@digital_padRight decimals.toNat fraction digital')
    rw [ofDigitChars_padRight, length_padRight fine] at short
    have wide : 10 ^ decimals.toNat ≤ 10 ^ 18 := Nat.pow_le_pow_right (by decide) supported
    have room : 10 ^ 18 < Nat.pow 2 128 := by decide
    exact ⟨rfl, by omega⟩
  rw [toBaseUnits, if_neg (mt UInt32.lt_iff_toNat_lt.1 (Nat.not_lt.2 supported))]
  simp only [numeral?_eq_some_iff.2 spells]
  cases large : digitsBelow? (Nat.pow 2 128) whole with
  | none =>
      have beyond : Nat.pow 2 128 ≤ ofDigitChars 10 whole 0 := by
        by_contra within
        rw [(digitsBelow?_eq_some_iff (by decide) digital).2 ⟨rfl, Nat.lt_of_not_le within⟩]
          at large
        cases large
      have more : ofDigitChars 10 whole 0 ≤ unitsOf decimals.toNat whole fraction :=
        Nat.le_add_right_of_le (Nat.le_mul_of_pos_right _ (Nat.pow_pos (by decide)))
      have room : 2 ^ 64 ≤ Nat.pow 2 128 := by decide
      rw [if_neg (by omega)]
  | some w =>
      obtain ⟨rfl, -⟩ := (digitsBelow?_eq_some_iff (by decide) digital).1 large
      simp only [if_neg (Nat.not_lt.2 fine), fraction_value, Option.getD_some, Nat.pow_eq]
      rfl

/-- A text means units at a number of decimal places: it is a numeral around which white
space may stand, with no more places than that and than eighteen, and denotes as many units. -/
def Means (text : String) (decimals : UInt32) (units : Nat) : Prop :=
  decimals.toNat ≤ 18 ∧ ∃ whole fraction, Spells (trimmed text.toList) whole fraction ∧
    fraction.length ≤ decimals.toNat ∧ (units : ℚ) = decimal whole fraction * 10 ^ decimals.toNat

/-- Base units are what a text means, as long as they fit 64 bits. -/
theorem toBaseUnits_eq_ok_iff {text : String} {decimals : UInt32} {units : UInt64} :
    toBaseUnits text decimals = .ok units ↔ Means text decimals units.toNat := by
  constructor
  · intro ok
    have supported : decimals.toNat ≤ 18 := by
      by_contra unsupported
      rw [toBaseUnits, if_pos (UInt32.lt_iff_toNat_lt.2 (Nat.lt_of_not_le unsupported))] at ok
      cases ok
    cases found : numeral? (trimmed text.toList) with
    | none =>
        rw [toBaseUnits, if_neg (mt UInt32.lt_iff_toNat_lt.1 (Nat.not_lt.2 supported))] at ok
        simp [found] at ok
    | some parts =>
        have spells := numeral?_eq_some_iff.1 found
        by_cases fine : parts.2.length ≤ decimals.toNat
        · rw [toBaseUnits_of_spells supported spells fine] at ok
          split at ok
          · rename_i small
            cases ok
            refine ⟨supported, _, _, spells, fine, ?_⟩
            rw [← unitsOf_eq fine, UInt64.toNat_ofNat_of_lt' small]
          · cases ok
        · rw [toBaseUnits, if_neg (mt UInt32.lt_iff_toNat_lt.1 (Nat.not_lt.2 supported))] at ok
          simp only [found] at ok
          split at ok
          · cases ok
          · rw [if_pos (Nat.lt_of_not_le fine)] at ok
            cases ok
  · rintro ⟨supported, whole, fraction, spells, fine, value⟩
    rw [← unitsOf_eq fine, Nat.cast_inj] at value
    rw [toBaseUnits_of_spells supported spells fine, ← value, if_pos units.toNat_lt,
      UInt64.ofNat_toNat]

/-- A text means one number of units at most. -/
theorem Means.unique {text : String} {decimals : UInt32} {units units' : Nat}
    (means : Means text decimals units) (means' : Means text decimals units') : units = units' := by
  obtain ⟨-, whole, fraction, spells, -, value⟩ := means
  obtain ⟨-, whole', fraction', spells', -, value'⟩ := means'
  have same := (numeral?_eq_some_iff.2 spells).symm.trans (numeral?_eq_some_iff.2 spells')
  cases same
  exact_mod_cast value.trans value'.symm

/-- Base units are a signed number if they leave its sign free, and it is the same number. -/
theorem toSigned_eq_ok_iff {units : UInt64} {n : Int64} :
    toSigned units = .ok n ↔ units.toNat < 2 ^ 63 ∧ n.toInt = units.toNat := by
  have signed (small : units.toNat < 2 ^ 63) : units.toInt64.toInt = units.toNat := by
    rw [← Int64.toInt_ofNat_of_lt small, ← UInt64.toInt64_ofNat', UInt64.ofNat_toNat]
  rw [toSigned]
  split
  · rename_i small
    rw [Except.ok.injEq, ← Int64.toInt_inj, signed small]
    exact ⟨fun same => ⟨small, same.symm⟩, fun same => same.2.symm⟩
  · rename_i large
    exact ⟨nofun, fun within => absurd within.1 large⟩

/-- Base units that do not leave a sign free are refused, as an overflow. -/
theorem toSigned_eq_error_iff {units : UInt64} {e : AmountError} :
    toSigned units = .error e ↔ 2 ^ 63 ≤ units.toNat ∧ e = .overflow := by
  rw [toSigned]
  split
  · rename_i small
    exact ⟨nofun, fun beyond => absurd small (Nat.not_lt.2 beyond.1)⟩
  · rename_i large
    rw [Except.error.injEq]
    exact ⟨fun same => ⟨Nat.le_of_not_lt large, same.symm⟩, fun beyond => beyond.2.symm⟩

/-- The debit of an amount is the amount below zero, without overflow. -/
theorem neg_of_toSigned {units : UInt64} {n : Int64} (signed : toSigned units = .ok n) :
    (-n).toInt = -(units.toNat : Int) ∧ n.toInt = units.toNat := by
  obtain ⟨small, value⟩ := toSigned_eq_ok_iff.1 signed
  rw [Int64.toInt_neg, value]
  exact ⟨Int.bmod_eq_of_le (by omega) (by omega), rfl⟩

end LedgerAgent.Amount
