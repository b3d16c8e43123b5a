/-
Module: LedgerAgent.Proofs.Decimal.Positional
Purpose: Decimals that are written out in full are numerals of their values.
Main exports: Decimal.spells_positional
-/
import LedgerAgent.Json.Printer
import LedgerAgent.Proofs.Amount
import LedgerAgent.Proofs.Decimal.Shortest

namespace LedgerAgent

open Nat (ofDigitChars)
open Text Text.Numeral

namespace Decimal

theorem digital_replicate_zero (n : Nat) : ∀ c ∈ List.replicate n '0', isDigit c = true := by
  intro c member
  rw [List.eq_of_mem_replicate member]
  decide

theorem digital_digits (n : Nat) : ∀ c ∈ digits n, isDigit c = true :=
  fun _ member => isDigit_of_mem_digits member

/-- Zeros behind digits multiply by ten each. -/
theorem ofDigitChars_append_zeros (ds : List Char) (n : Nat) :
    ofDigitChars 10 (ds ++ List.replicate n '0') 0 = ofDigitChars 10 ds 0 * 10 ^ n := by
  have padded : ofDigitChars 10 (padRight (ds.length + n) ds) 0 = _ :=
    Amount.ofDigitChars_padRight ds
  rwa [padRight, Nat.add_sub_cancel_left] at padded

/-- Zeros in front of digits do not count. -/
theorem ofDigitChars_zeros_append (n : Nat) (ds : List Char) :
    ofDigitChars 10 (List.replicate n '0' ++ ds) 0 = ofDigitChars 10 ds 0 := by
  simp [Nat.ofDigitChars_append]

/-- Digits with a point before the last `n` of them are a numeral of their number over `10 ^ n`. -/
theorem spells_pointed {ds : List Char} {n : Nat} (digital : ∀ c ∈ ds, isDigit c = true)
    (inside : n < ds.length) :
    ∃ whole fraction,
      Amount.Spells (ds.take (ds.length - n) ++ '.' :: ds.drop (ds.length - n)) whole fraction ∧
        Amount.decimal whole fraction = ofDigitChars 10 ds 0 / 10 ^ n := by
  have length : (ds.drop (ds.length - n)).length = n := by
    rw [List.length_drop]
    omega
  have nonempty : ds.take (ds.length - n) ≠ [] := by
    rw [← List.length_pos_iff, List.length_take]
    omega
  refine ⟨_, _, .pointed (.inl nonempty) (fun c member => digital c (List.mem_of_mem_take member))
    fun c member => digital c (List.mem_of_mem_drop member), ?_⟩
  rw [Amount.decimal_eq, List.take_append_drop, length]

/-- Digits behind a zero, a point and the zeros that make them `n` are a numeral of their number
over `10 ^ n`. -/
theorem spells_pointed_zeros {ds : List Char} {n : Nat} (digital : ∀ c ∈ ds, isDigit c = true)
    (outside : ds.length ≤ n) :
    ∃ whole fraction,
      Amount.Spells (['0'] ++ '.' :: (List.replicate (n - ds.length) '0' ++ ds)) whole fraction ∧
        Amount.decimal whole fraction = ofDigitChars 10 ds 0 / 10 ^ n := by
  have zero : ['0'] = List.replicate 1 '0' := rfl
  have length : (List.replicate (n - ds.length) '0' ++ ds).length = n := by
    rw [List.length_append, List.length_replicate]
    omega
  refine ⟨_, _, .pointed (.inl (List.cons_ne_nil _ _)) (digital_replicate_zero 1)
    fun c member => ?_, ?_⟩
  · exact (List.mem_append.1 member).elim (digital_replicate_zero _ c) (digital c)
  · rw [Amount.decimal_eq, length, ← List.append_assoc, zero, ← List.replicate_add,
      ofDigitChars_zeros_append]

/-- A decimal's digits, with zeros or a point where its exponent puts them, are a numeral of
its value. -/
theorem spells_positional (d : Scientific) :
    ∃ whole fraction, Amount.Spells (positional d) whole fraction ∧
      Amount.decimal whole fraction = d.value := by
  have digital := digital_digits d.digits
  have value := ofDigitChars_digits d.digits
  by_cases nonneg : 0 ≤ d.exponent
  · have written : positional d =
        digits d.digits ++ List.replicate (if d.digits = 0 then 0 else d.exponent.toNat) '0' :=
      if_pos nonneg
    obtain ⟨n, same⟩ := Int.eq_ofNat_of_zero_le nonneg
    rw [written, Scientific.value]
    refine ⟨_, [], .integer (List.append_ne_nil_of_left_ne_nil (digits_ne_nil _) _)
      fun c member => ?_, ?_⟩
    · exact (List.mem_append.1 member).elim (digital c) (digital_replicate_zero _ c)
    · rw [Amount.decimal, ofDigitChars_append_zeros, value, same]
      split
      · rename_i nothing
        simp [nothing]
      · simp
  · obtain ⟨n, same⟩ : ∃ n : Nat, d.exponent = -(n : Int) := ⟨(-d.exponent).toNat, by omega⟩
    have worth : d.value = (ofDigitChars 10 (digits d.digits) 0 : ℚ) / 10 ^ n := by
      rw [Scientific.value, same, value, zpow_neg, zpow_natCast, div_eq_mul_inv]
    have written : positional d =
        if 0 < ((digits d.digits).length : Int) + d.exponent then
          (digits d.digits).take (((digits d.digits).length : Int) + d.exponent).toNat ++
            '.' :: (digits d.digits).drop (((digits d.digits).length : Int) + d.exponent).toNat
        else
          ['0'] ++ '.' :: (List.replicate
            (-(((digits d.digits).length : Int) + d.exponent)).toNat '0' ++ digits d.digits) :=
      if_neg nonneg
    rw [written, worth, same]
    split
    · rename_i inside
      have places : (((digits d.digits).length : Int) + -(n : Int)).toNat =
          (digits d.digits).length - n := by omega
      rw [places]
      exact spells_pointed digital (by omega)
    · rename_i outside
      have places : (-(((digits d.digits).length : Int) + -(n : Int))).toNat =
          n - (digits d.digits).length := by omega
      rw [places]
      exact spells_pointed_zeros digital (by omega)

end Decimal

end LedgerAgent
