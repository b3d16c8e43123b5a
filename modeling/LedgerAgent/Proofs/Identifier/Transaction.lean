/-
Module: LedgerAgent.Proofs.Identifier.Transaction
Purpose: Which texts are identifiers of transactions: an account, `@`, a second, a point and a
  fraction of a second, and the fractions that are read although they are none.
Main exports: TransactionId.Fraction, TransactionId.nanos?_eq_some_iff, TransactionId.Written,
  TransactionId.written_parse
-/
import LedgerAgent.Proofs.Amount
import LedgerAgent.Proofs.Identifier.Spelling

namespace LedgerAgent.TransactionId

open Nat (ofDigitChars)
open Text Text.Numeral

/-! ### Fractions of a second -/

/-- The text of a fraction of a second: one to nine digits, which count nanoseconds as if
zeros filled them up to nine places. -/
structure Fraction (fs : List Char) (nanos : Nat) : Prop where
  nonempty : fs ≠ []
  short : fs.length ≤ 9
  digital : ∀ c ∈ fs, isDigit c = true
  value : nanos = ofDigitChars 10 fs 0 * 10 ^ (9 - fs.length)

/-- The nanoseconds are the part of a second that the digits behind a point denote. -/
theorem fraction_iff {fs : List Char} {nanos : Nat} :
    Fraction fs nanos ↔ fs ≠ [] ∧ fs.length ≤ 9 ∧ (∀ c ∈ fs, isDigit c = true) ∧
      (nanos : ℚ) / 10 ^ 9 = Amount.decimal [] fs := by
  have share (short : fs.length ≤ 9) : (nanos : ℚ) / 10 ^ 9 = Amount.decimal [] fs ↔
      nanos = ofDigitChars 10 fs 0 * 10 ^ (9 - fs.length) := by
    have units : Amount.unitsOf 9 [] fs = ofDigitChars 10 fs 0 * 10 ^ (9 - fs.length) := by
      rw [Amount.unitsOf, Nat.ofDigitChars_nil, Nat.zero_mul, Nat.zero_add]
    rw [div_eq_iff (by positivity), ← Amount.unitsOf_eq short, units, Nat.cast_inj]
  constructor
  · intro fraction
    exact ⟨fraction.nonempty, fraction.short, fraction.digital,
      (share fraction.short).2 fraction.value⟩
  · rintro ⟨nonempty, short, digital, value⟩
    exact ⟨nonempty, short, digital, (share short).1 value⟩

/-- The reader of fractions counts bytes, fills up with zeros and reads an unsigned integer. -/
theorem nanos?_eq_some_iff_unsigned {fs : List Char} {nanos : UInt32} :
    nanos? fs = some nanos ↔
      fs ≠ [] ∧ byteLength fs ≤ 9 ∧ Unsigned (padRight 9 fs) nanos.toNat := by
  have read : (uint32 (padRight 9 fs)).toOption = some nanos ↔
      Unsigned (padRight 9 fs) nanos.toNat := by
    rw [← uint32_eq_ok_iff]
    cases uint32 (padRight 9 fs) <;> simp [Except.toOption]
  rw [nanos?, ← read]
  split
  · next refused =>
    simp only [Bool.or_eq_true, List.isEmpty_iff, decide_eq_true_eq] at refused
    simp only [reduceCtorEq, false_iff, not_and]
    intro nonempty short
    rcases refused with empty | long
    · exact absurd empty nonempty
    · omega
  · next fits =>
    simp only [Bool.or_eq_true, List.isEmpty_iff, decide_eq_true_eq, not_or, Nat.not_lt] at fits
    rw [and_iff_right fits.1, and_iff_right fits.2]

theorem padRight_cons (width : Nat) (c : Char) (cs : List Char) :
    padRight (width + 1) (c :: cs) = c :: padRight width cs := by
  rw [padRight, padRight, List.length_cons, Nat.add_sub_add_right, List.cons_append]

/-- A fraction of one to nine digits is read as its nanoseconds.  Besides these a plus sign is
taken at the first place, which it fills like a zero. -/
theorem nanos?_eq_some_iff {fs : List Char} {nanos : UInt32} :
    nanos? fs = some nanos ↔ Fraction fs nanos.toNat ∨
      ∃ ds, fs = '+' :: ds ∧ Fraction ('0' :: ds) nanos.toNat := by
  have zero (ds : List Char) : ofDigitChars 10 (padRight 9 ('0' :: ds)) 0 =
      ofDigitChars 10 (padRight 8 ds) 0 := by
    rw [padRight_cons]
    rfl
  rw [nanos?_eq_some_iff_unsigned]
  constructor
  · rintro ⟨nonempty, short, spells⟩
    have short' : fs.length ≤ 9 := Nat.le_trans (length_le_byteLength fs) short
    generalize filled : padRight 9 fs = body at spells
    generalize nanos.toNat = n at spells
    cases spells with
    | bare _ digital =>
        left
        rw [← filled] at digital ⊢
        exact ⟨nonempty, short', fun c member => digital c (List.mem_append_left _ member),
          Amount.ofDigitChars_padRight fs⟩
    | plus _ digital =>
        -- Zeros behind a fraction put no sign in front of it: this one is its own.
        right
        cases fs with
        | nil => exact absurd rfl nonempty
        | cons c rest =>
            rw [padRight_cons] at filled
            obtain ⟨rfl, rfl⟩ := List.cons.inj filled
            refine ⟨rest, rfl, List.cons_ne_nil _ _, short', ?_, ?_⟩
            · rw [List.forall_mem_cons]
              exact ⟨by decide, fun c member => digital c (List.mem_append_left _ member)⟩
            · rw [← Amount.ofDigitChars_padRight, zero]
  · rintro (fraction | ⟨ds, rfl, fraction⟩)
    · refine ⟨fraction.nonempty, ?_, ?_⟩
      · rw [byteLength_of_digital fraction.digital]
        exact fraction.short
      · rw [fraction.value, ← Amount.ofDigitChars_padRight]
        exact .bare (List.append_ne_nil_of_left_ne_nil fraction.nonempty _)
          (Amount.digital_padRight fraction.digital)
    · have digital := (List.forall_mem_cons.1 fraction.digital).2
      have short : ds.length ≤ 8 := Nat.le_of_succ_le_succ fraction.short
      refine ⟨List.cons_ne_nil _ _, ?_, ?_⟩
      · rw [byteLength_cons, byteLength_of_digital digital]
        exact Nat.add_le_add_left short 1
      · rw [fraction.value, ← Amount.ofDigitChars_padRight, zero, padRight_cons]
        refine .plus ?_ (Amount.digital_padRight digital)
        rw [← List.length_pos_iff, Amount.length_padRight short]
        decide

/-! ### Identifiers -/

/-- The three parts of the text of an identifier: a text of its account, the second from which
on it is valid, and a fraction of that second. -/
structure Written (as ss fs : List Char) (id : TransactionId) : Prop where
  account : EntityId.parse (String.ofList as) = .ok id.account
  seconds : Signed ss id.validStart.seconds.toInt
  fraction : Fraction fs id.validStart.nanos.toNat

theorem at_not_mem {as : List Char} {account : AccountId}
    (accepted : EntityId.ofChars? as = some account) : '@' ∉ as := by
  have spells := EntityId.ofChars?_eq_some_iff.1 accepted
  intro member
  rcases (trims_trimmed as).mem member with blank | own
  · exact absurd blank (by decide)
  · rcases spells.mem own with point | sign | digit
    · exact absurd point (by decide)
    · exact absurd sign (by decide)
    · exact absurd digit (by decide)

theorem point_not_mem {ss : List Char} {seconds : Int} (spells : Signed ss seconds) : '.' ∉ ss := by
  intro member
  rcases spells.mem member with sign | sign | digit
  · exact absurd sign (by decide)
  · exact absurd sign (by decide)
  · exact absurd digit (by decide)

/-- The three parts are cut at the first `@` and the first point behind it. -/
theorem ofChars?_eq_some_iff {cs : List Char} {id : TransactionId} :
    ofChars? cs = some id ↔ ∃ as ss fs, trimmed cs = as ++ '@' :: (ss ++ '.' :: fs) ∧
      EntityId.ofChars? as = some id.account ∧ Signed ss id.validStart.seconds.toInt ∧
      nanos? fs = some id.validStart.nanos := by
  have seconds_iff {ss : List Char} {n : Int64} :
      (int64 ss).toOption = some n ↔ Signed ss n.toInt := by
    rw [← int64_eq_ok_iff]
    cases int64 ss <;> simp [Except.toOption]
  simp only [ofChars?, Option.bind_eq_bind, Option.bind_eq_some_iff, Option.pure_def,
    Option.some.injEq, Prod.exists, seconds_iff]
  constructor
  · rintro ⟨as, time, cut, ss, fs, cut', nanos, fraction, account, accepted, seconds, spells, rfl⟩
    exact ⟨as, ss, fs, by rw [eq_of_cutAt cut, eq_of_cutAt cut'], accepted, spells, fraction⟩
  · rintro ⟨as, ss, fs, text, accepted, spells, fraction⟩
    refine ⟨as, ss ++ '.' :: fs, ?_, ss, fs, ?_, _, fraction, _, accepted, _, spells, rfl⟩
    · rw [text, cutAt_append _ (at_not_mem accepted)]
    · rw [cutAt_append _ (point_not_mem spells)]

theorem parse_eq_ok_iff_ofChars? {text : String} {id : TransactionId} :
    parse text = .ok id ↔ ofChars? text.toList = some id := by
  rw [parse]
  cases ofChars? text.toList <;> simp

theorem parse_eq_error_iff {text : String} {e : IdError} :
    parse text = .error e ↔ (¬ ∃ id, parse text = .ok id) ∧ e = .invalidTransaction text := by
  rw [parse]
  cases ofChars? text.toList with
  | none => simp [eq_comm]
  | some id => simp

/-- A text is read as an identifier exactly if, but for white space around it, it is a text of
the account, `@`, the seconds as an integer of 64 bits in digits behind at most one sign, a point
and a fraction: one to nine digits for the nanoseconds, or a plus sign in the place of the first
of them, which is then taken for a zero.  The nanoseconds are the part of a second that is written
behind the point.  Every other text is refused as it stands. -/
theorem written_parse (text : String) (id : TransactionId) :
    (parse text = .ok id ↔ ∃ as ss fs, Trims text.toList (as ++ '@' :: (ss ++ '.' :: fs)) ∧
      (Written as ss fs id ∨ ∃ ds, fs = '+' :: ds ∧ Written as ss ('0' :: ds) id)) ∧
    (parse text = .error (.invalidTransaction text) ↔ ¬ ∃ id', parse text = .ok id') ∧
    ∀ fs nanos, Fraction fs nanos ↔ fs ≠ [] ∧ fs.length ≤ 9 ∧ (∀ c ∈ fs, isDigit c = true) ∧
      (nanos : ℚ) / 10 ^ 9 = Amount.decimal [] fs := by
  refine ⟨?_, ?_, fun fs nanos => fraction_iff⟩
  · rw [parse_eq_ok_iff_ofChars?, ofChars?_eq_some_iff]
    refine exists_congr fun as => exists_congr fun ss => exists_congr fun fs => ?_
    have account : EntityId.parse (String.ofList as) = .ok id.account ↔
        EntityId.ofChars? as = some id.account := by
      rw [EntityId.parse_eq_ok_iff_ofChars?, String.toList_ofList]
    rw [trimmed_eq_iff, nanos?_eq_some_iff, ← account]
    apply and_congr_right'
    constructor
    · rintro ⟨accepted, seconds, fraction | ⟨ds, rfl, fraction⟩⟩
      · exact .inl ⟨accepted, seconds, fraction⟩
      · exact .inr ⟨ds, rfl, accepted, seconds, fraction⟩
    · rintro (⟨accepted, seconds, fraction⟩ | ⟨ds, rfl, accepted, seconds, fraction⟩)
      · exact ⟨accepted, seconds, .inl fraction⟩
      · exact ⟨accepted, seconds, .inr ⟨ds, rfl, fraction⟩⟩
  · rw [parse_eq_error_iff, and_iff_left rfl]

/-- `+5` is read as a twentieth of a second, and is not one to nine digits. -/
theorem parse_signedFraction :
    parse "0.0.42@1700000000.+5" = .ok ⟨⟨0, 0, 42⟩, ⟨1700000000, 50000000⟩⟩ ∧
    ¬ ∃ as ss fs id, Trims "0.0.42@1700000000.+5".toList (as ++ '@' :: (ss ++ '.' :: fs)) ∧
      Written as ss fs id := by
  refine ⟨by decide +kernel, ?_⟩
  rintro ⟨as, ss, fs, id, trims, written⟩
  have accepted := EntityId.parse_eq_ok_iff_ofChars?.1 written.account
  rw [String.toList_ofList] at accepted
  have text : trimmed "0.0.42@1700000000.+5".toList =
      "0.0.42".toList ++ '@' :: ("1700000000".toList ++ '.' :: "+5".toList) := by decide +kernel
  have parts := trimmed_eq_iff.2 trims
  rw [text, append_sep_inj (by decide) (at_not_mem accepted),
    append_sep_inj (by decide) (point_not_mem written.seconds)] at parts
  obtain ⟨-, -, rfl⟩ := parts
  exact absurd (written.fraction.digital '+' (by decide)) (by decide)

end LedgerAgent.TransactionId
