/-
Module: LedgerAgent.Proofs.Json.Number
Purpose: How far the number that a literal is read as may be from the literal, and which
  literals come through unchanged.
Main exports: Json.Number.value, Json.Number.value_of_means_plain, Json.Literal.Kept,
  Json.Literal.value_of_kept, Json.Literal.value_near
-/
import LedgerAgent.Proofs.Decimal.Positional
import LedgerAgent.Proofs.Json.Grammar

namespace LedgerAgent.Json

open Decimal (Binary64 shortest)
open Decimal.Binary64 (minExponent)

/-! ### What a number is worth -/

/-- The value of a number: that of the shortest digits where it is a floating-point number. -/
def Number.value : Number → ℚ
  | .natural n => n.toNat
  | .negative n => n.toInt
  | .real x => (if x.negative then -1 else 1) * (shortest x).value

/-- A numeral begins with no minus sign. -/
theorem not_spells_minus {cs whole fraction : List Char} :
    ¬ Amount.Spells ('-' :: cs) whole fraction := by
  intro spells
  generalize begun : '-' :: cs = text at spells
  cases spells with
  | integer nonempty digital =>
      exact absurd (digital '-' (begun ▸ List.mem_cons_self)) (by decide)
  | pointed nonempty digital digital' =>
      cases whole with
      | nil => cases begun
      | cons c whole =>
          cases begun
          exact absurd (digital '-' List.mem_cons_self) (by decide)

/-- What begins with a minus sign is no amount. -/
theorem not_means_minus {cs : List Char} {decimals : UInt32} {units : Nat} :
    ¬ Amount.Means (String.ofList ('-' :: cs)) decimals units := by
  rintro ⟨-, whole, fraction, spells, -⟩
  rw [String.toList_ofList, Text.trimmed, List.dropWhile_cons_of_neg (by decide)] at spells
  -- Trimming leaves the sign in front, or nothing, which is no numeral either.
  have front : ('-' :: cs).rdropWhile Text.isBlank <+: '-' :: cs := List.rdropWhile_prefix _ _
  change Amount.Spells (('-' :: cs).rdropWhile Text.isBlank) whole fraction at spells
  obtain nothing | ⟨ds, same, -⟩ := List.prefix_cons_iff.1 front
  · rw [nothing] at spells
    generalize empty : ([] : List Char) = text at spells
    cases spells with
    | integer nonempty digital => exact nonempty empty.symm
    | pointed => simp at empty
  · rw [same] at spells
    exact not_spells_minus spells

/-- White space is no part of a numeral. -/
theorem trimmed_of_spells {cs whole fraction : List Char}
    (spells : Amount.Spells cs whole fraction) : Text.trimmed cs = cs := by
  have solid : ∀ c ∈ cs, Text.isBlank c = false := by
    have digit {c : Char} (digital : Text.Numeral.isDigit c = true) : Text.isBlank c = false := by
      have range := Text.Numeral.isDigit_iff.1 digital
      simp only [Text.isBlank, Bool.or_eq_false_iff, Bool.and_eq_false_imp, decide_eq_true_eq,
        decide_eq_false_iff_not, beq_eq_false_iff_ne]
      omega
    cases spells with
    | integer nonempty digital => exact fun c member => digit (digital c member)
    | pointed nonempty digital digital' =>
        intro c member
        obtain front | rfl | back := by simpa using member
        · exact digit (digital c front)
        · decide
        · exact digit (digital' c back)
  exact Text.trimmed_of_not_blank solid

/-- A number that is written out in full means its value. -/
theorem Number.value_of_means_plain {n : Number} {decimals : UInt32} {units : Nat}
    (means : Amount.Means n.plain decimals units) :
    (units : ℚ) = n.value * 10 ^ decimals.toNat := by
  -- Whatever else the text is a numeral of, the units are those of its value.
  have worth {cs whole fraction : List Char} (spells : Amount.Spells cs whole fraction)
      (means : Amount.Means (String.ofList cs) decimals units) :
      (units : ℚ) = Amount.decimal whole fraction * 10 ^ decimals.toNat := by
    obtain ⟨-, whole', fraction', spells', -, value⟩ := means
    rw [String.toList_ofList, trimmed_of_spells spells] at spells'
    cases (Amount.numeral?_eq_some_iff.2 spells).symm.trans (Amount.numeral?_eq_some_iff.2 spells')
    exact value
  cases n with
  | natural n =>
      have spells : Amount.Spells (Text.Numeral.digits n.toNat) (Text.Numeral.digits n.toNat) [] :=
        .integer (Text.Numeral.digits_ne_nil _) fun _ member =>
          Text.Numeral.isDigit_of_mem_digits member
      rw [worth spells means, Amount.decimal, Text.Numeral.ofDigitChars_digits, value]
      simp
  | negative n => exact absurd means not_means_minus
  | real x =>
      rw [plain] at means
      split at means
      · exact absurd means not_means_minus
      · rename_i unsigned
        obtain ⟨whole, fraction, spells, same⟩ := Decimal.spells_positional (shortest x)
        rw [worth spells means, same, value, if_neg unsigned, one_mul]

/-! ### Literals and the numbers that they are read as -/

namespace Literal

variable {l : Literal} {n : Number}

theorem magnitude_nonneg (l : Literal) : 0 ≤ l.magnitude := by
  rw [magnitude, Amount.decimal]
  positivity

/-- The sign makes no difference to how large a number is. -/
theorem abs_value (l : Literal) : |l.value| = l.magnitude := by
  rw [value, abs_mul, abs_of_nonneg l.magnitude_nonneg]
  split <;> simp

/-- The class that a literal goes to: an integer class, which holds just the number that is
written, or the floating-point number that the written one is rounded to. -/
inductive Goes (l : Literal) : Number → Prop where
  | integer {n : Number} (same : n.value = l.value) : Goes l n
  | real {x : Binary64} (sign : x.negative = l.negative) (normalized : x.Normalized)
      (reads : x.ReadsBack l.magnitude) (zero : l.magnitude = 0 → x.mantissa = 0)
      (large : l.fraction = none → l.exponent = none →
        l.magnitude = 0 ∨ l.value < -2 ^ 63 ∨ 2 ^ 64 ≤ l.value) : Goes l (.real x)

/-- All digits that are written, as the digits of the last place. -/
theorem magnitude_eq (l : Literal) :
    l.magnitude = (digitsValue (l.whole.chars ++ l.fraction.elim [] Run.chars) : Nat) *
      10 ^ (l.exponent.elim 0 Exponent.value - ((l.fraction.elim [] Run.chars).length : Int)) := by
  rw [magnitude, Amount.decimal_eq, digitsValue_eq, zpow_sub₀ (by norm_num), zpow_natCast]
  ring

/-- What a literal is rounded to is what it goes as. -/
theorem goes_of_ofDecimal? {x : Binary64}
    (found : Binary64.ofDecimal? l.negative
      (digitsValue (l.whole.chars ++ l.fraction.elim [] Run.chars))
      (l.exponent.elim 0 Exponent.value - ((l.fraction.elim [] Run.chars).length : Int)) = some x)
    (large : l.fraction = none → l.exponent = none →
      l.magnitude = 0 ∨ l.value < -2 ^ 63 ∨ 2 ^ 64 ≤ l.value) : l.Goes (.real x) := by
  obtain ⟨sign, normalized, reads⟩ := Decimal.Binary64.readsBack_of_ofDecimal? found
  rw [← magnitude_eq] at reads
  refine .real sign normalized reads (fun nothing => ?_) large
  rw [magnitude_eq, mul_eq_zero, or_iff_left (by positivity), Nat.cast_eq_zero] at nothing
  rw [nothing, Binary64.ofDecimal?, if_pos rfl] at found
  cases found
  rfl

/-- The classes that an integer is tried for, one after the other. -/
theorem toNumber?_of_integer (noFraction : l.fraction = none) (noExponent : l.exponent = none) :
    l.parts.toNumber? =
      if !l.negative && digitsValue l.whole.chars < 2 ^ 64 then
        some (Number.natural (UInt64.ofNat (digitsValue l.whole.chars)))
      else if l.negative && 0 < digitsValue l.whole.chars &&
          digitsValue l.whole.chars ≤ 2 ^ 63 then
        some (.negative (Int64.ofInt (-(digitsValue l.whole.chars : Int))))
      else (Binary64.ofDecimal? l.negative (digitsValue l.whole.chars) 0).map .real := by
  rw [parts, noFraction, noExponent]
  rfl

theorem magnitude_of_integer (noFraction : l.fraction = none) (noExponent : l.exponent = none) :
    l.magnitude = digitsValue l.whole.chars := by
  rw [magnitude_eq, noFraction, noExponent]
  simp

/-- An integer goes to the integer class that holds it, and else is rounded. -/
theorem goes_of_integer (noFraction : l.fraction = none) (noExponent : l.exponent = none)
    (found : l.parts.toNumber? = some n) : l.Goes n := by
  have magnitude := magnitude_of_integer noFraction noExponent
  have rounded {x : Binary64}
      (found : Binary64.ofDecimal? l.negative (digitsValue l.whole.chars) 0 = some x)
      (large : l.magnitude = 0 ∨ l.value < -2 ^ 63 ∨ 2 ^ 64 ≤ l.value) : l.Goes (.real x) := by
    refine goes_of_ofDecimal? ?_ fun _ _ => large
    rw [noFraction, noExponent, Option.elim_none, Option.elim_none, List.append_nil]
    exact found
  rw [toNumber?_of_integer noFraction noExponent] at found
  rw [value, magnitude] at rounded
  generalize digitsValue l.whole.chars = m at *
  cases sign : l.negative with
  | false =>
      rw [sign] at found rounded
      simp only [Bool.not_false, Bool.true_and, decide_eq_true_eq, Bool.false_and,
        Bool.false_eq_true, if_false, one_mul] at found rounded
      split at found
      · rename_i fits
        cases found
        refine .integer ?_
        rw [value, magnitude, sign, Number.value, UInt64.toNat_ofNat_of_lt' fits]
        simp
      · rename_i large
        obtain ⟨x, nearest, rfl⟩ := Option.map_eq_some_iff.1 found
        exact rounded nearest (.inr (.inr (by exact_mod_cast Nat.le_of_not_lt large)))
  | true =>
      rw [sign] at found rounded
      simp only [Bool.not_true, Bool.false_and, Bool.false_eq_true, if_false, Bool.true_and,
        Bool.and_eq_true, decide_eq_true_eq, if_true] at found rounded
      split at found
      · rename_i fits
        cases found
        refine .integer ?_
        rw [value, magnitude, sign, Number.value,
          Int64.toInt_ofInt_of_le (by omega) (by omega)]
        simp
      · rename_i unfit
        obtain ⟨x, nearest, rfl⟩ := Option.map_eq_some_iff.1 found
        refine rounded nearest ?_
        by_cases nothing : m = 0
        · exact .inl (by rw [nothing, Nat.cast_zero])
        · have large : ((2 ^ 63 : Nat) : ℚ) < m := by
            exact_mod_cast (by omega : 2 ^ 63 < m)
          push_cast at large
          exact .inr (.inl (by linarith))

/-- Whatever number a literal becomes, it goes as that. -/
theorem goes_of_toNumber? (found : l.parts.toNumber? = some n) : l.Goes n := by
  by_cases integer : l.fraction = none ∧ l.exponent = none
  · exact goes_of_integer integer.1 integer.2 found
  · have rounded : l.parts.toNumber? = (Binary64.ofDecimal? l.negative
        (digitsValue (l.whole.chars ++ l.fraction.elim [] Run.chars))
        (l.exponent.elim 0 Exponent.value - ((l.fraction.elim [] Run.chars).length : Int))).map
          .real := by
      rw [parts]
      cases fraction : l.fraction with
      | some f => cases l.exponent <;> rfl
      | none =>
          cases exponent : l.exponent with
          | some x => rfl
          | none => exact absurd ⟨fraction, exponent⟩ integer
    obtain ⟨x, nearest, rfl⟩ := Option.map_eq_some_iff.1 (rounded.symm.trans found)
    exact goes_of_ofDecimal? nearest fun noFraction noExponent =>
      absurd ⟨noFraction, noExponent⟩ integer

/-- A literal whose number is kept as it is written: an integer that fits 64 bits, or a number
that fifteen digits suffice for, unless it is smaller than all numbers with 53 bits. -/
inductive Kept (l : Literal) : Prop where
  | integer (noFraction : l.fraction = none) (noExponent : l.exponent = none)
      (low : -2 ^ 63 ≤ l.value) (high : l.value < 2 ^ 64) : Kept l
  | short {m : Nat} {k : Int} (few : m < 10 ^ 15) (digits : |l.value| = m * 10 ^ k)
      (normal : l.value = 0 ∨ 2 ^ (-1022 : Int) ≤ |l.value|) : Kept l

/-- A number that is written with its shortest digits has the literal's value, if they have. -/
theorem value_real {x : Binary64} (sign : x.negative = l.negative)
    (same : (shortest x).value = l.magnitude) : (Number.real x).value = l.value := by
  rw [Number.value, value, sign, same]

/-- A literal of zero is read as zero. -/
theorem value_of_zero {x : Binary64} (sign : x.negative = l.negative) (nothing : l.magnitude = 0)
    (zero : x.mantissa = 0) : (Number.real x).value = l.value := by
  refine value_real sign ?_
  rw [nothing, shortest, if_pos zero, Decimal.Scientific.value, Nat.cast_zero, zero_mul]

/-- A literal whose value is kept goes as a number of the same value. -/
theorem value_of_kept (kept : l.Kept) (goes : l.Goes n) : n.value = l.value := by
  cases goes with
  | integer same => exact same
  | real sign normalized reads zero large =>
      cases kept with
      | integer noFraction noExponent low high =>
          obtain nothing | below | above := large noFraction noExponent
          · exact value_of_zero sign nothing (zero nothing)
          · exact absurd below (not_lt.2 low)
          · exact absurd high (not_lt.2 above)
      | @short m k few digits normal =>
          rw [abs_value] at digits normal
          obtain nothing | normal := normal
          · have nothing : l.magnitude = 0 := by rw [← abs_value, nothing, abs_zero]
            exact value_of_zero sign nothing (zero nothing)
          · have least : (2 : ℚ) ^ 52 * 2 ^ minExponent = 2 ^ (-1022 : Int) := by
              rw [minExponent, ← zpow_natCast, ← zpow_add₀ (by norm_num)]
              rfl
            have full := Decimal.Binary64.full_of_readsBack normalized reads
              (least.le.trans normal)
            refine value_real sign ?_
            rw [digits] at reads ⊢
            exact Decimal.shortest_of_readsBack normalized full few reads

/-- The number that a literal is read as differs from what is written by a unit of the last of
its 53 bits at most, or by the least unit. -/
theorem value_near (goes : l.Goes n) :
    |n.value - l.value| ≤ max (|l.value| / 2 ^ 52) (2 ^ (-1074 : Int)) := by
  cases goes with
  | integer same =>
      rw [same, sub_self, abs_zero]
      exact le_max_of_le_right (zpow_nonneg (by norm_num) _)
  | @real x sign normalized reads zero large =>
      have near := Decimal.Binary64.sub_le_of_readsBack normalized reads
        (Decimal.readsBack_shortest normalized)
      rw [Number.value, sign, abs_value, value, ← mul_sub, abs_mul]
      have unit : |if l.negative = true then (-1 : ℚ) else 1| = 1 := by split <;> simp
      rw [unit, one_mul]
      exact near

end Literal

end LedgerAgent.Json
