/-
Module: LedgerAgent.Proofs.Numeral.Spelling
Purpose: Which texts are read as integers of a width: digits behind at most one sign whose
  value is in range.
Main exports: Text.Numeral.Unsigned, Text.Numeral.Signed, Text.Numeral.uint64_eq_ok_iff,
  Text.Numeral.uint32_eq_ok_iff, Text.Numeral.int64_eq_ok_iff
-/
import LedgerAgent.Proofs.Json.Decoding

namespace LedgerAgent.Text.Numeral

open Nat (ofDigitChars)
open Json (map_eq_ok)

/-- A text is a natural number: digits, leading zeros allowed, behind at most one plus sign. -/
inductive Unsigned : List Char → Nat → Prop where
  | bare {ds : List Char} (nonempty : ds ≠ []) (digital : ∀ c ∈ ds, isDigit c = true) :
      Unsigned ds (ofDigitChars 10 ds 0)
  | plus {ds : List Char} (nonempty : ds ≠ []) (digital : ∀ c ∈ ds, isDigit c = true) :
      Unsigned ('+' :: ds) (ofDigitChars 10 ds 0)

/-- A text is an integer: a natural number, or digits behind a minus sign. -/
inductive Signed : List Char → Int → Prop where
  | natural {cs : List Char} {n : Nat} (spells : Unsigned cs n) : Signed cs n
  | minus {ds : List Char} (nonempty : ds ≠ []) (digital : ∀ c ∈ ds, isDigit c = true) :
      Signed ('-' :: ds) (-(ofDigitChars 10 ds 0 : Nat))

/-! ### Their characters -/

/-- A plus sign and digits are all that an unsigned numeral is made of. -/
theorem Unsigned.mem {cs : List Char} {n : Nat} (spells : Unsigned cs n) {c : Char}
    (member : c ∈ cs) : c = '+' ∨ isDigit c = true := by
  cases spells with
  | bare nonempty digital => exact .inr (digital c member)
  | plus nonempty digital =>
      rcases List.mem_cons.1 member with sign | digit
      · exact .inl sign
      · exact .inr (digital c digit)

theorem Signed.mem {cs : List Char} {n : Int} (spells : Signed cs n) {c : Char}
    (member : c ∈ cs) : c = '-' ∨ c = '+' ∨ isDigit c = true := by
  cases spells with
  | natural spells => exact .inr (spells.mem member)
  | minus nonempty digital =>
      rcases List.mem_cons.1 member with sign | digit
      · exact .inl sign
      · exact .inr (.inr (digital c digit))

/-! ### Reading them -/

variable {limit bound : Nat} {cs ds : List Char}

/-- A plus sign in front of digits changes nothing. -/
theorem unsigned_plus (nonempty : ds ≠ []) :
    unsigned limit ('+' :: ds) = extend limit .tooLarge 0 ds := by
  rw [unsigned]
  exact nonempty

/-- An unsigned reader takes the natural numbers below its limit. -/
theorem unsigned_eq_ok_iff {n : Nat} (positive : 0 < limit) :
    unsigned limit cs = .ok n ↔ Unsigned cs n ∧ n < limit := by
  constructor
  · intro read
    unfold unsigned at read
    split at read
    · cases read
    · cases read
    · next ds single =>
      have nonempty : ds ≠ [] := by simpa using single
      obtain ⟨digital, rfl, below⟩ := (extend_eq_ok_iff positive).1 read
      exact ⟨.plus nonempty digital, below⟩
    · next empty _ _ =>
      obtain ⟨digital, rfl, below⟩ := (extend_eq_ok_iff positive).1 read
      exact ⟨.bare empty digital, below⟩
  · rintro ⟨spells, below⟩
    cases spells with
    | bare nonempty digital =>
        rw [unsigned_of_digits nonempty digital]
        exact (extend_eq_ok_iff positive).2 ⟨digital, rfl, below⟩
    | plus nonempty digital =>
        rw [unsigned_plus nonempty]
        exact (extend_eq_ok_iff positive).2 ⟨digital, rfl, below⟩

/-- Behind a minus sign there is room for one more. -/
theorem signed_minus (nonempty : ds ≠ []) :
    signed bound ('-' :: ds) = (extend (bound + 1) .tooSmall 0 ds).map fun n : Nat => -(n : Int) := by
  rw [signed]
  · cases extend (bound + 1) .tooSmall 0 ds <;> rfl
  · exact nonempty

/-- Without a minus sign a signed reader does what an unsigned one does. -/
theorem signed_of_natural (natural : ∀ ds, cs ≠ '-' :: ds) :
    signed bound cs = (unsigned bound cs).map Int.ofNat := by
  unfold signed
  split
  · rfl
  · rfl
  · exact absurd rfl (natural [])
  · next ds single =>
    rw [unsigned_plus (by simpa using single)]
  · next ds _ => exact absurd rfl (natural ds)
  · next empty sign _ plus _ =>
    rw [unsigned]
    · exact empty
    · exact sign
    · exact plus

/-- A signed reader takes the integers from the negative of its bound up to below the bound. -/
theorem signed_eq_ok_iff {n : Int} (positive : 0 < bound) :
    signed bound cs = .ok n ↔ Signed cs n ∧ -(bound : Int) ≤ n ∧ n < bound := by
  by_cases minus : ∃ ds, cs = '-' :: ds
  · obtain ⟨ds, rfl⟩ := minus
    constructor
    · intro read
      have nonempty : ds ≠ [] := by
        rintro rfl
        cases read
      rw [signed_minus nonempty, map_eq_ok] at read
      obtain ⟨_, read, rfl⟩ := read
      obtain ⟨digital, rfl, within⟩ := (extend_eq_ok_iff (Nat.succ_pos bound)).1 read
      exact ⟨.minus nonempty digital, by omega, by omega⟩
    · rintro ⟨spells, least, -⟩
      cases spells with
      | natural spells =>
          rcases spells.mem List.mem_cons_self with sign | digit
          · exact absurd sign (by decide)
          · exact absurd digit (by decide)
      | minus nonempty digital =>
          rw [signed_minus nonempty, map_eq_ok]
          exact ⟨_, (extend_eq_ok_iff (Nat.succ_pos bound)).2 ⟨digital, rfl, by omega⟩, rfl⟩
  · rw [not_exists] at minus
    rw [signed_of_natural minus, map_eq_ok]
    constructor
    · rintro ⟨m, read, rfl⟩
      obtain ⟨spells, below⟩ := (unsigned_eq_ok_iff positive).1 read
      exact ⟨.natural spells, by simp, by simpa using below⟩
    · rintro ⟨spells, -, below⟩
      cases spells with
      | natural spells =>
          exact ⟨_, (unsigned_eq_ok_iff positive).2 ⟨spells, by omega⟩, rfl⟩
      | minus => exact absurd rfl (minus _)

/-! ### Widths -/

/-- A word of 64 bits is read from the natural numbers that it can hold. -/
theorem uint64_eq_ok_iff {n : UInt64} : uint64 cs = .ok n ↔ Unsigned cs n.toNat := by
  rw [uint64, map_eq_ok]
  constructor
  · rintro ⟨m, read, rfl⟩
    obtain ⟨spells, below⟩ := (unsigned_eq_ok_iff (by decide)).1 read
    rwa [UInt64.toNat_ofNat_of_lt' below]
  · intro spells
    exact ⟨_, (unsigned_eq_ok_iff (by decide)).2 ⟨spells, n.toNat_lt⟩, UInt64.ofNat_toNat⟩

theorem uint32_eq_ok_iff {n : UInt32} : uint32 cs = .ok n ↔ Unsigned cs n.toNat := by
  rw [uint32, map_eq_ok]
  constructor
  · rintro ⟨m, read, rfl⟩
    obtain ⟨spells, below⟩ := (unsigned_eq_ok_iff (by decide)).1 read
    rwa [UInt32.toNat_ofNat_of_lt' below]
  · intro spells
    exact ⟨_, (unsigned_eq_ok_iff (by decide)).2 ⟨spells, n.toNat_lt⟩, UInt32.ofNat_toNat⟩

/-- A signed word of 64 bits is read from the integers that it can hold. -/
theorem int64_eq_ok_iff {n : Int64} : int64 cs = .ok n ↔ Signed cs n.toInt := by
  rw [int64, map_eq_ok]
  constructor
  · rintro ⟨m, read, rfl⟩
    obtain ⟨spells, least, below⟩ := (signed_eq_ok_iff (by decide)).1 read
    rwa [Int64.toInt_ofInt_of_le (by simpa using least) (by simpa using below)]
  · intro spells
    have read : signed (Nat.pow 2 63) cs = .ok n.toInt :=
      (signed_eq_ok_iff (by decide)).2
        ⟨spells, by simpa using n.le_toInt, by simpa using n.toInt_lt⟩
    exact ⟨_, read, Int64.ofInt_toInt n⟩

end LedgerAgent.Text.Numeral
