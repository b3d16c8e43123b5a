/-
Module: LedgerAgent.Proofs.Numeral
Purpose: Which texts are decimal integers below a bound, and that written integers
  read back.
Main exports: extend_eq_ok_iff, uint64_digits, unsigned_padded, int64_spelled
-/
import LedgerAgent.Text.Numeral
import Mathlib.Algebra.Group.Nat.Defs

namespace LedgerAgent.Text.Numeral

open Nat (ofDigitChars)

/-! ### Digits -/

theorem isDigit_iff {c : Char} : isDigit c = true ↔ 48 ≤ c.toNat ∧ c.toNat ≤ 57 := by
  simp [isDigit]

theorem digit?_of_isDigit {c : Char} (h : isDigit c = true) : digit? c = some (c.toNat - 48) := by
  rw [digit?, if_pos (isDigit_iff.1 h)]

theorem digit?_of_not_isDigit {c : Char} (h : ¬ isDigit c = true) : digit? c = none := by
  rw [digit?, if_neg (fun range => h (isDigit_iff.2 range))]

/-- The library's test for decimal digits is the same. -/
theorem isDigit_of_charIsDigit {c : Char} (h : c.isDigit = true) : isDigit c = true := by
  rw [isDigit_iff]
  simpa [Char.isDigit, UInt32.le_iff_toNat_le] using h

theorem isDigit_of_mem_digits {n : Nat} {c : Char} (h : c ∈ digits n) : isDigit c = true :=
  isDigit_of_charIsDigit (Nat.isDigit_of_mem_toDigits (by decide) (by decide) h)

theorem digits_ne_nil (n : Nat) : digits n ≠ [] :=
  Nat.toDigits_ne_nil

/-- The digits of a number have its value. -/
theorem ofDigitChars_digits (n : Nat) : ofDigitChars 10 (digits n) 0 = n :=
  Nat.ofDigitChars_ten_toDigits

/-- The first digit is no zero unless it is the only digit. -/
theorem head_digits (n : Nat) :
    ∃ d rest, digits n = d :: rest ∧ isDigit d = true ∧ (d = '0' → rest = []) := by
  induction n using Nat.strongRecOn with
  | ind n inductionHypothesis =>
      by_cases small : n < 10
      · refine ⟨n.digitChar, [], Nat.toDigits_of_lt_base small, ?_, fun _ => rfl⟩
        apply isDigit_of_mem_digits (n := n)
        simp [digits, Nat.toDigits_of_lt_base small]
      · have large : 10 ≤ n := by omega
        obtain ⟨d, rest, spelled, isDigit_d, zero⟩ := inductionHypothesis (n / 10) (by omega)
        have split : digits n = digits (n / 10) ++ [(n % 10).digitChar] :=
          Nat.toDigits_of_base_le (by decide) large
        refine ⟨d, rest ++ [(n % 10).digitChar], by simp [split, spelled], isDigit_d, ?_⟩
        intro isZero
        -- A lone leading zero would spell `n / 10 = 0`.
        have value := ofDigitChars_digits (n / 10)
        rw [spelled, isZero, zero isZero] at value
        simp [Nat.ofDigitChars_cons] at value
        omega

/-! ### Reading under a bound -/

/-- Digits never lower the value that they are written behind. -/
theorem le_ofDigitChars (cs : List Char) (value : Nat) : value ≤ ofDigitChars 10 cs value := by
  rw [Nat.ofDigitChars_eq_ofDigitChars_zero]
  have positive : 0 < 10 ^ cs.length := Nat.pow_pos (by decide)
  have := Nat.le_mul_of_pos_left value positive
  omega

/-- Reading succeeds exactly on digits whose whole value is below the bound; since the
value never sinks, the bound may be tested after each digit. -/
theorem extend_eq_ok_iff {limit : Nat} {past : NumeralError} {cs : List Char} {value n : Nat}
    (below : value < limit) :
    extend limit past value cs = .ok n ↔
      (∀ c ∈ cs, isDigit c = true) ∧ ofDigitChars 10 cs value = n ∧ n < limit := by
  induction cs generalizing value with
  | nil =>
      simp only [extend_nil, Except.ok.injEq, List.not_mem_nil, false_implies, implies_true,
        Nat.ofDigitChars_nil, true_and]
      constructor
      · rintro rfl
        exact ⟨rfl, below⟩
      · exact fun h => h.1
  | cons c rest inductionHypothesis =>
      by_cases digit : isDigit c = true
      · have next : value * 10 + (c.toNat - 48) = 10 * value + (c.toNat - '0'.toNat) := by
          rw [Nat.mul_comm]
          rfl
        simp only [extend, digit?_of_isDigit digit, List.forall_mem_cons, digit, true_and,
          Nat.ofDigitChars_cons, next]
        by_cases bounded : 10 * value + (c.toNat - '0'.toNat) < limit
        · rw [if_pos bounded, inductionHypothesis bounded]
        · rw [if_neg bounded]
          have := le_ofDigitChars rest (10 * value + (c.toNat - '0'.toNat))
          constructor
          · intro h
            cases h
          · rintro ⟨_, rfl, tooSmall⟩
            omega
      · simp [extend, digit?_of_not_isDigit digit, digit]

/-- A run of digits spells less than ten to the power of its length. -/
theorem ofDigitChars_lt {cs : List Char} (digital : ∀ c ∈ cs, isDigit c = true) :
    ofDigitChars 10 cs 0 < 10 ^ cs.length := by
  induction cs with
  | nil => simp
  | cons c rest inductionHypothesis =>
      have range := isDigit_iff.1 (digital c (by simp))
      have tail := inductionHypothesis fun d member => digital d (List.mem_cons_of_mem c member)
      rw [Nat.ofDigitChars_cons, Nat.ofDigitChars_eq_ofDigitChars_zero, List.length_cons,
        Nat.pow_succ]
      have first : 10 * 0 + (c.toNat - '0'.toNat) ≤ 9 := by
        have : '0'.toNat = 48 := rfl
        omega
      have := Nat.mul_le_mul_left (10 ^ rest.length) first
      omega

/-- Digits of a number below the bound read back. -/
theorem extend_digits {limit n : Nat} (past : NumeralError) (h : n < limit) :
    extend limit past 0 (digits n) = .ok n := by
  rw [extend_eq_ok_iff (by omega)]
  exact ⟨fun c => isDigit_of_mem_digits, ofDigitChars_digits n, h⟩

/-- A run of digits has no sign to set aside. -/
theorem unsigned_of_digits {limit : Nat} {cs : List Char} (nonempty : cs ≠ [])
    (digital : ∀ c ∈ cs, isDigit c = true) :
    unsigned limit cs = extend limit .tooLarge 0 cs := by
  match cs with
  | c :: rest =>
      have noSign : c ≠ '+' := by
        rintro rfl
        exact absurd (digital '+' (by simp)) (by decide)
      rw [unsigned] <;> simp_all

/-- A number below the limit is read from its digits. -/
theorem unsigned_digits {limit n : Nat} (h : n < limit) : unsigned limit (digits n) = .ok n := by
  rw [unsigned_of_digits (digits_ne_nil n) fun c => isDigit_of_mem_digits]
  exact extend_digits .tooLarge h

/-- What was read is less than ten to the power of the text's length. -/
theorem lt_of_unsigned {limit : Nat} {cs : List Char} {n : Nat} (positive : 0 < limit)
    (h : unsigned limit cs = .ok n) : n < 10 ^ cs.length := by
  have shorter : ∀ {past : NumeralError} {ds : List Char}, ds.length ≤ cs.length →
      extend limit past 0 ds = .ok n → n < 10 ^ cs.length := by
    intro past ds short read
    obtain ⟨digital, rfl, _⟩ := (extend_eq_ok_iff positive).1 read
    exact Nat.lt_of_lt_of_le (ofDigitChars_lt digital) (Nat.pow_le_pow_right (by decide) short)
  unfold unsigned at h
  split at h
  · cases h
  · cases h
  · exact shorter (by simp) h
  · exact shorter (Nat.le_refl _) h

theorem uint64_digits (n : UInt64) : uint64 (digits n.toNat) = .ok n := by
  rw [uint64, unsigned_digits n.toNat_lt]
  simp [Except.map]

/-! ### Fixed width -/

theorem isDigit_of_mem_padded {width n : Nat} {c : Char} (h : c ∈ padded width n) :
    isDigit c = true := by
  rcases List.mem_append.1 h with zero | digit
  · rw [List.eq_of_mem_replicate zero]
    decide
  · exact isDigit_of_mem_digits digit

/-- A number that fits the width is padded to it. -/
theorem length_padded {width n : Nat} (positive : 0 < width) (h : n < 10 ^ width) :
    (padded width n).length = width := by
  have short : (digits n).length ≤ width :=
    (Nat.length_toDigits_le_iff (by decide) positive).2 h
  simp only [padded, List.length_append, List.length_replicate]
  omega

/-- Zeros in front do not change the value. -/
theorem ofDigitChars_padded (width n : Nat) : ofDigitChars 10 (padded width n) 0 = n := by
  simp [padded, Nat.ofDigitChars_append, ofDigitChars_digits]

theorem unsigned_padded {limit width n : Nat} (h : n < limit) :
    unsigned limit (padded width n) = .ok n := by
  have nonempty : padded width n ≠ [] := by
    simp [padded, digits_ne_nil]
  rw [unsigned_of_digits nonempty fun c => isDigit_of_mem_padded,
    extend_eq_ok_iff (by omega)]
  exact ⟨fun c => isDigit_of_mem_padded, ofDigitChars_padded width n, h⟩

/-! ### Signed integers -/

/-- A number below the bound is read from its digits as it is. -/
theorem signed_digits {bound n : Nat} (h : n < bound) :
    signed bound (digits n) = .ok (n : Int) := by
  obtain ⟨d, rest, spelled, isDigit_d, _⟩ := head_digits n
  have noPlus : d ≠ '+' := by
    rintro rfl
    exact absurd isDigit_d (by decide)
  have noMinus : d ≠ '-' := by
    rintro rfl
    exact absurd isDigit_d (by decide)
  have read := extend_digits .tooLarge h
  rw [spelled] at read ⊢
  rw [signed] <;> simp_all [Except.map]

/-- A sign in front of digits makes a number negative, down to the bound itself. -/
theorem signed_negative_digits {bound n : Nat} (h : n ≤ bound) :
    signed bound ('-' :: digits n) = .ok (-(n : Int)) := by
  have read := extend_digits .tooSmall (Nat.lt_succ_of_le h)
  rw [signed]
  · rw [read]
    rfl
  · exact digits_ne_nil n

/-- A signed integer of 64 bits reads back from its sign and digits. -/
theorem int64_spelled (n : Int64) :
    int64 ((if n.toInt < 0 then ['-'] else []) ++ digits n.toInt.natAbs) = .ok n := by
  have low := n.le_toInt
  have high := n.toInt_lt
  by_cases negative : n.toInt < 0
  · have value : -(n.toInt.natAbs : Int) = n.toInt := by omega
    rw [if_pos negative, List.singleton_append, int64, Nat.pow_eq,
      signed_negative_digits (by omega), value]
    simp [Except.map]
  · have value : (n.toInt.natAbs : Int) = n.toInt := by omega
    rw [if_neg negative, List.nil_append, int64, Nat.pow_eq, signed_digits (by omega), value]
    simp [Except.map]

end LedgerAgent.Text.Numeral
