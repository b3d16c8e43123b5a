/-
Module: LedgerAgent.Proofs.Timestamp.Order
Purpose: The timestamps of a mirror node keep the order of the instants that texts name,
  leap seconds apart.
Main exports: Timestamp.DateTime.Falls, Timestamp.Stamp, Timestamp.Stamp.Marks,
  Timestamp.mirrorTimestamp_order
-/
import LedgerAgent.MirrorNode.Query
import LedgerAgent.Proofs.Timestamp.Spelling
import Mathlib.Data.Prod.Lex

namespace LedgerAgent.Timestamp

open Nat (ofDigitChars)
open Text Text.Numeral
open Amount (decimal)

/-! ### Instants -/

/-- When a date and time is: whole seconds since 1970, and what part of a second is past
them.  The earlier of two instants has fewer seconds, or as many and less past them.  A
sixtieth second belongs to the fifty-ninth and is past the whole of it, so that it lies
before the second that follows. -/
inductive DateTime.Falls (t : DateTime) : Int ×ₗ ℚ → Prop where
  | counted {number : Int} (counts : t.day.Counts number) :
      Falls t (toLex
        (number * 86400 + t.hour * 3600 + t.minute * 60 + min t.second 59 - t.ahead * 60,
          (t.second - 59 : Nat) + decimal [] t.fraction))

/-- Seconds and the digits of a fraction of a second, as mirror nodes write them. -/
structure Stamp where
  seconds : Int
  fraction : List Char
  digital : ∀ c ∈ fraction, isDigit c = true

namespace Stamp

/-- The seconds, a point, and the digits. -/
def toText (stamp : Stamp) : String :=
  toString stamp.seconds ++ "." ++ String.ofList stamp.fraction

/-- The pair that a stamp denotes, its digits read as a fraction of a second. -/
def value (stamp : Stamp) : Int ×ₗ ℚ :=
  toLex (stamp.seconds, decimal [] stamp.fraction)

/-- The number that the digits of the fraction are as an integer. -/
def nanos (stamp : Stamp) : Nat :=
  ofDigitChars 10 stamp.fraction 0

/-- A stamp has the seconds of an instant and counts the whole nanoseconds past them, in nine
digits; in ten, if the instant is in a sixtieth second. -/
structure Marks (stamp : Stamp) (second : Nat) (moment : Int ×ₗ ℚ) : Prop where
  seconds : stamp.seconds = (ofLex moment).1
  nanos : stamp.nanos = ⌊(ofLex moment).2 * 10 ^ 9⌋₊
  width : stamp.fraction.length = if second = 60 then 10 else 9

end Stamp

/-! ### The stamp of a date and time -/

/-- The stamp that is written for a date and time. -/
def DateTime.stamp (t : DateTime) : Stamp where
  seconds := t.reading.seconds
  fraction := padded 9 t.reading.nanos
  digital := fun _ => isDigit_of_mem_padded

theorem toList_toString_int (n : Int) :
    (toString n).toList = (if n < 0 then ['-'] else []) ++ digits n.natAbs := by
  cases n with
  | ofNat n => simp [toString, Int.repr, digits, Nat.repr]
  | negSucc n => simp [toString, Int.repr, digits, Nat.repr, Int.negSucc_lt_zero]

/-- A reading is printed as the stamp of its date and time. -/
theorem DateTime.toText_reading (t : DateTime) : t.reading.toText = t.stamp.toText := by
  rw [← String.toList_inj]
  simp only [Timestamp.toText, Stamp.toText, DateTime.stamp, String.toList_append,
    String.toList_ofList, toList_toString_int]
  simp

/-- A text has a timestamp exactly if it spells a date and time, and it is the stamp of that. -/
theorem mirrorTimestamp_eq_ok_iff {text written : String} :
    mirrorTimestamp text = .ok written ↔
      ∃ t, Spells (trimmed text.toList) t ∧ t.stamp.toText = written := by
  rw [mirrorTimestamp]
  constructor
  · intro ok
    cases read : parse? text with
    | none =>
        rw [read] at ok
        cases ok
    | some stamp =>
        obtain ⟨t, spells, rfl⟩ := parse?_eq_some_iff.1 read
        rw [read] at ok
        cases ok
        exact ⟨t, spells, t.toText_reading.symm⟩
  · rintro ⟨t, spells, rfl⟩
    rw [parse?_eq_some_iff.2 ⟨t, spells, rfl⟩, ← t.toText_reading]

/-- Every date and time of the calendar falls on a moment. -/
theorem DateTime.Real.falls {t : DateTime} (real : t.Real) : ∃ moment, t.Falls moment :=
  ⟨_, .counted ((Day.counts_iff real.day _).2 rfl)⟩

/-- A sixtieth second has more than nine digits of nanoseconds, every other second nine. -/
theorem length_nanos {t : DateTime} (real : t.Real)
    (digital : ∀ c ∈ t.fraction, isDigit c = true) :
    (padded 9 t.reading.nanos).length = if t.second = 60 then 10 else 9 := by
  have small := nanosOf_lt t.fraction digital
  have nanos : t.reading.nanos = nanosOf t.fraction + (t.second - 59) * 1000000000 := rfl
  split
  · rename_i leap
    rw [leap] at nanos
    have ten : (digits t.reading.nanos).length = 10 := by
      have least := mt (@Nat.length_toDigits_le_iff 10 t.reading.nanos 9 (by decide)
        (by decide)).1 (by omega)
      have most := (@Nat.length_toDigits_le_iff 10 t.reading.nanos 10 (by decide)
        (by decide)).2 (by omega)
      rw [digits]
      omega
    rw [padded, List.length_append, List.length_replicate, ten]
  · rename_i ordinary
    have := real.second
    refine length_padded (by decide) ?_
    omega

/-- The stamp of a date and time marks the moment that it falls on. -/
theorem DateTime.marks_stamp {t : DateTime} {moment : Int ×ₗ ℚ} (real : t.Real)
    (digital : ∀ c ∈ t.fraction, isDigit c = true) (falls : t.Falls moment) :
    t.stamp.Marks t.second moment := by
  cases falls with
  | counted counts =>
      have number := (Day.counts_iff real.day _).1 counts
      refine ⟨?_, ?_, length_nanos real digital⟩
      · show t.reading.seconds = _
        simp only [DateTime.reading, ofLex_toLex, number]
        push_cast
        ring
      · rw [Stamp.nanos, DateTime.stamp, ofDigitChars_padded, ofLex_toLex]
        have whole : ((t.second - 59 : Nat) + decimal [] t.fraction) * 10 ^ 9 =
            decimal [] t.fraction * 10 ^ 9 + ((t.second - 59) * 1000000000 : Nat) := by
          push_cast
          ring
        have past : 0 ≤ decimal [] t.fraction * 10 ^ 9 := by
          rw [decimal]
          positivity
        rw [whole, Nat.floor_add_natCast past, ← nanosOf_eq t.fraction digital]
        rfl

/-! ### Order -/

/-- Stamps are in order by their seconds, and within one by their fractions. -/
theorem Stamp.value_le_iff {stamp stamp' : Stamp} :
    stamp.value ≤ stamp'.value ↔ stamp.seconds < stamp'.seconds ∨ stamp.seconds = stamp'.seconds ∧
      stamp.nanos * 10 ^ stamp'.fraction.length ≤ stamp'.nanos * 10 ^ stamp.fraction.length := by
  have positive (ds : List Char) : (0 : ℚ) < 10 ^ ds.length := by positivity
  have fraction : decimal [] stamp.fraction ≤ decimal [] stamp'.fraction ↔
      stamp.nanos * 10 ^ stamp'.fraction.length ≤ stamp'.nanos * 10 ^ stamp.fraction.length := by
    rw [Amount.decimal_eq, Amount.decimal_eq, List.nil_append, List.nil_append,
      div_le_div_iff₀ (positive _) (positive _)]
    norm_cast
  rw [Stamp.value, Stamp.value, Prod.Lex.toLex_le_toLex, fraction]

/-- Whole nanoseconds past a second are a thousand million or more exactly in a sixtieth. -/
theorem DateTime.nanos_bounds {t : DateTime} (real : t.Real)
    (digital : ∀ c ∈ t.fraction, isDigit c = true) :
    (t.second ≠ 60 → t.stamp.nanos < 1000000000) ∧
      (t.second = 60 → 1000000000 ≤ t.stamp.nanos) := by
  have small := nanosOf_lt t.fraction digital
  have second := real.second
  have nanos : t.stamp.nanos = nanosOf t.fraction + (t.second - 59) * 1000000000 :=
    ofDigitChars_padded 9 t.reading.nanos
  constructor
  · intro ordinary
    omega
  · intro leap
    omega

/-- Stamps keep the order of instants of the same kind of second; a stamp with ten digits
stands for a tenth of the nanoseconds that it counts. -/
theorem Stamp.value_le_iff_of_le {t t' : DateTime} {moment moment' : Int ×ₗ ℚ}
    (marks : t.stamp.Marks t.second moment) (marks' : t'.stamp.Marks t'.second moment')
    (bounds : (t.second ≠ 60 → t.stamp.nanos < 1000000000) ∧
      (t.second = 60 → 1000000000 ≤ t.stamp.nanos))
    (bounds' : (t'.second ≠ 60 → t'.stamp.nanos < 1000000000) ∧
      (t'.second = 60 → 1000000000 ≤ t'.stamp.nanos))
    (earlier : moment ≤ moment') :
    t.stamp.value ≤ t'.stamp.value ↔ ¬ (t.stamp.seconds = t'.stamp.seconds ∧ t.second ≠ 60 ∧
      t'.second = 60 ∧ t'.stamp.nanos < 10 * t.stamp.nanos) := by
  rw [Stamp.value_le_iff, marks.width, marks'.width]
  rcases Prod.Lex.le_iff.1 earlier with sooner | ⟨together, past⟩
  · rw [← marks.seconds, ← marks'.seconds] at sooner
    simp [sooner, sooner.ne]
  · rw [← marks.seconds, ← marks'.seconds] at together
    have fewer : t.stamp.nanos ≤ t'.stamp.nanos := by
      rw [marks.nanos, marks'.nanos]
      exact Nat.floor_mono (mul_le_mul_of_nonneg_right past (by positivity))
    simp only [together, lt_irrefl, false_or, true_and]
    by_cases leap : t.second = 60
    · by_cases leap' : t'.second = 60
      · simp only [leap, leap', if_true, ne_eq, not_true, false_and, not_false_eq_true, iff_true]
        omega
      · have := bounds.2 leap
        have := bounds'.1 leap'
        omega
    · by_cases leap' : t'.second = 60
      · simp only [leap, leap', if_true, if_false, ne_eq, not_false_eq_true, true_and]
        omega
      · simp only [leap, leap', if_false, false_and, and_false, not_false_eq_true, iff_true]
        omega

/-- A text has a timestamp exactly if it spells a date and time, around which white space may
stand.  The timestamp is a stamp with the seconds of the instant that the text names and the
whole nanoseconds past them, in nine digits, or in ten if the instant is in a sixtieth second.
Of two instants in order, the stamps are in order too, unless both have the same seconds, only
the later is in a sixtieth second, and its ten digits start with a smaller fraction. -/
theorem mirrorTimestamp_order (text text' : String) :
    ((∃ written, mirrorTimestamp text = .ok written) ↔
      ∃ t moment, Spells (trimmed text.toList) t ∧ t.Falls moment) ∧
    ∀ {t t' : DateTime} {moment moment' : Int ×ₗ ℚ},
      Spells (trimmed text.toList) t → Spells (trimmed text'.toList) t' →
      t.Falls moment → t'.Falls moment' → moment ≤ moment' →
      ∃ stamp stamp' : Stamp,
        mirrorTimestamp text = .ok stamp.toText ∧ mirrorTimestamp text' = .ok stamp'.toText ∧
        stamp.Marks t.second moment ∧ stamp'.Marks t'.second moment' ∧
        (stamp.value ≤ stamp'.value ↔ ¬ (stamp.seconds = stamp'.seconds ∧ t.second ≠ 60 ∧
          t'.second = 60 ∧ stamp'.nanos < 10 * stamp.nanos)) := by
  constructor
  · simp only [mirrorTimestamp_eq_ok_iff]
    constructor
    · rintro ⟨_, t, spells, -⟩
      obtain ⟨moment, falls⟩ := spells.real.falls
      exact ⟨t, moment, spells, falls⟩
    · rintro ⟨t, _, spells, -⟩
      exact ⟨_, t, spells, rfl⟩
  · intro t t' moment moment' spells spells' falls falls' earlier
    have marks := DateTime.marks_stamp spells.real spells.digital falls
    have marks' := DateTime.marks_stamp spells'.real spells'.digital falls'
    exact ⟨t.stamp, t'.stamp, mirrorTimestamp_eq_ok_iff.2 ⟨t, spells, rfl⟩,
      mirrorTimestamp_eq_ok_iff.2 ⟨t', spells', rfl⟩, marks, marks',
      Stamp.value_le_iff_of_le marks marks' (DateTime.nanos_bounds spells.real spells.digital)
        (DateTime.nanos_bounds spells'.real spells'.digital) earlier⟩

/-! ### The last minute of 2016 -/

/-- A second of the last minute of 2016 in universal time. -/
def lastMinute (second : Nat) (fraction : List Char) : DateTime :=
  ⟨⟨2016, 12, 31⟩, 23, 59, second, fraction, 0⟩

theorem real_lastMinute {second : Nat} {fraction : List Char} (second_le : second ≤ 60) :
    (lastMinute second fraction).Real :=
  ⟨⟨⟨Nat.le_add_left 1 11, Nat.le_refl 12⟩, Nat.le_add_left 1 30, Nat.le_refl 31⟩, Nat.le_refl 23,
    Nat.le_refl 59, second_le⟩

/-- A text that names a second of the last minute of 2016 spells it. -/
theorem spells_lastMinute {second : Nat} {ss fs ds : List Char} (second_le : second ≤ 60)
    (digits : Digits 2 second ss) (fraction : Fraction fs ds) :
    Spells ("2016-12-31T23:59:".toList ++ (ss ++ (fs ++ ['Z']))) (lastMinute second ds) := by
  have field {width n : Nat} {cs : List Char} (length : cs.length = width)
      (digital : cs.all isDigit = true) (value : ofDigitChars 10 cs 0 = n) : Digits width n cs :=
    ⟨length, List.all_eq_true.1 digital, value⟩
  exact @Spells.dated (lastMinute second ds) "2016".toList "12".toList "31".toList "23".toList
    "59".toList ss fs ['Z'] 'T' (real_lastMinute second_le) (field rfl rfl rfl) (field rfl rfl rfl)
    (field rfl rfl rfl) (.inl rfl) (field rfl rfl rfl) (field rfl rfl rfl) digits fraction
    (.universal (.inl rfl))

/-- The leap second falls within the second before it, a whole second on. -/
theorem falls_lastMinute {second : Nat} {ds : List Char} (second_le : second ≤ 60) :
    (lastMinute second ds).Falls
      (toLex (1483228740 + min second 59, (second - 59 : Nat) + decimal [] ds)) := by
  have number : dayNumber 2016 12 31 = 17166 := by
    norm_num [dayNumber, daysBeforeYear, daysBeforeMonth, daysInMonth, isLeapYear,
      List.range_succ]
  have counts : Day.Counts ⟨2016, 12, 31⟩ 17166 :=
    (Day.counts_iff (@real_lastMinute second ds second_le).day _).2 number.symm
  have falls : (lastMinute second ds).Falls _ := .counted counts
  have minute : (17166 : Int) * 86400 + 23 * 3600 + 59 * 60 = 1483228740 := by norm_num
  simp only [lastMinute, Nat.cast_ofNat, minute, zero_mul, sub_zero] at falls
  exact falls

/-- The half of the fifty-ninth second. -/
theorem spells_half : Spells (trimmed "2016-12-31T23:59:59.5Z".toList) (lastMinute 59 ['5']) :=
  @spells_lastMinute 59 ['5', '9'] ['.', '5'] ['5'] (by decide)
    ⟨rfl, List.all_eq_true.1 rfl, rfl⟩ (.pointed (by decide) (List.all_eq_true.1 rfl))

theorem falls_half : (lastMinute 59 ['5']).Falls (toLex (1483228799, 1 / 2)) := by
  have falls := @falls_lastMinute 59 ['5'] (by decide)
  have five : ofDigitChars 10 ['5'] 0 = 5 := rfl
  norm_num [decimal, five] at falls
  exact falls

/-- The start of the sixtieth. -/
theorem spells_leap : Spells (trimmed "2016-12-31T23:59:60Z".toList) (lastMinute 60 []) :=
  @spells_lastMinute 60 ['6', '0'] [] [] (by decide) ⟨rfl, List.all_eq_true.1 rfl, rfl⟩ .none

theorem falls_leap : (lastMinute 60 []).Falls (toLex (1483228799, 1)) := by
  have falls := @falls_lastMinute 60 [] (by decide)
  norm_num [decimal] at falls
  exact falls

theorem half_le_leap : (toLex (1483228799, 1 / 2) : Int ×ₗ ℚ) ≤ toLex (1483228799, 1) := by
  rw [Prod.Lex.toLex_le_toLex]
  exact .inr ⟨rfl, by norm_num⟩

/-- The half of the fifty-ninth second comes before the sixtieth, and the condition on their
stamps holds. -/
theorem mirrorTimestamp_order_lastMinute :
    Spells (trimmed "2016-12-31T23:59:59.5Z".toList) (lastMinute 59 ['5']) ∧
    Spells (trimmed "2016-12-31T23:59:60Z".toList) (lastMinute 60 []) ∧
    (lastMinute 59 ['5']).Falls (toLex (1483228799, 1 / 2)) ∧
    (lastMinute 60 []).Falls (toLex (1483228799, 1)) ∧
    (toLex (1483228799, 1 / 2) : Int ×ₗ ℚ) ≤ toLex (1483228799, 1) ∧
    ∃ stamp stamp' : Stamp,
      mirrorTimestamp "2016-12-31T23:59:59.5Z" = .ok stamp.toText ∧
      mirrorTimestamp "2016-12-31T23:59:60Z" = .ok stamp'.toText ∧
      stamp.Marks 59 (toLex (1483228799, 1 / 2)) ∧ stamp'.Marks 60 (toLex (1483228799, 1)) ∧
      (stamp.value ≤ stamp'.value ↔ ¬ (stamp.seconds = stamp'.seconds ∧ 59 ≠ 60 ∧ 60 = 60 ∧
        stamp'.nanos < 10 * stamp.nanos)) :=
  ⟨spells_half, spells_leap, falls_half, falls_leap, half_le_leap,
    (mirrorTimestamp_order "2016-12-31T23:59:59.5Z" "2016-12-31T23:59:60Z").2 spells_half
      spells_leap falls_half falls_leap half_le_leap⟩

/-- A sixtieth second is written with ten digits behind the point, and reads as earlier than
the half second before it. -/
theorem mirrorTimestamp_leapSecond :
    ∃ stamp stamp' : Stamp,
      mirrorTimestamp "2016-12-31T23:59:59.5Z" = .ok stamp.toText ∧
      mirrorTimestamp "2016-12-31T23:59:60Z" = .ok stamp'.toText ∧
      stamp.toText = "1483228799.500000000" ∧ stamp'.toText = "1483228799.1000000000" ∧
      stamp'.fraction.length = 10 ∧
      (lastMinute 59 ['5']).Falls (toLex (1483228799, 1 / 2)) ∧
      (lastMinute 60 []).Falls (toLex (1483228799, 1)) ∧
      (toLex (1483228799, 1 / 2) : Int ×ₗ ℚ) ≤ toLex (1483228799, 1) ∧
      ¬ stamp.value ≤ stamp'.value := by
  have half : mirrorTimestamp "2016-12-31T23:59:59.5Z" = .ok "1483228799.500000000" := by
    decide +kernel
  have sixtieth : mirrorTimestamp "2016-12-31T23:59:60Z" = .ok "1483228799.1000000000" := by
    decide +kernel
  refine ⟨⟨1483228799, "500000000".toList, List.all_eq_true.1 (by decide)⟩,
    ⟨1483228799, "1000000000".toList, List.all_eq_true.1 (by decide)⟩, half, sixtieth, by decide,
    by decide, rfl, falls_half, falls_leap, half_le_leap, ?_⟩
  rw [Stamp.value_le_iff]
  decide

end LedgerAgent.Timestamp
