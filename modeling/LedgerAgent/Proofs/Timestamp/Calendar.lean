/-
Module: LedgerAgent.Proofs.Timestamp.Calendar
Purpose: Days are numbered by counting them, on and back from the first of January 1970.
Main exports: Timestamp.Day, Timestamp.Day.Counts, Timestamp.Day.counts_iff
-/
import LedgerAgent.Timestamp

namespace LedgerAgent.Timestamp

/-- A day of the calendar. -/
structure Day where
  year : Nat
  month : Nat
  day : Nat

namespace Day

/-- The calendar has the day. -/
structure Real (d : Day) : Prop where
  month : 1 ≤ d.month ∧ d.month ≤ 12
  day : 1 ≤ d.day ∧ d.day ≤ daysInMonth d.year d.month

def next (d : Day) : Day :=
  if d.day < daysInMonth d.year d.month then ⟨d.year, d.month, d.day + 1⟩
  else if d.month < 12 then ⟨d.year, d.month + 1, 1⟩
  else ⟨d.year + 1, 1, 1⟩

/-- A day is so many days after the first of January 1970; before it, if the number is
negative. -/
inductive Counts : Day → Int → Prop where
  | epoch : Counts ⟨1970, 1, 1⟩ 0
  | on {d : Day} {n : Int} (counts : Counts d n) : Counts d.next (n + 1)
  | back {d : Day} {n : Int} (real : d.Real) (counts : Counts d.next n) : Counts d (n - 1)

/-! ### Days, months and years -/

/-- A month has 28 to 31 days. -/
theorem daysInMonth_bounds (year month : Nat) :
    28 ≤ daysInMonth year month ∧ daysInMonth year month ≤ 31 := by
  unfold daysInMonth
  split
  · cases isLeapYear year <;> exact ⟨by decide, by decide⟩
  all_goals exact ⟨by decide, by decide⟩

/-- The days before a year grow by the year's own. -/
theorem daysBeforeYear_succ (year : Nat) :
    daysBeforeYear (year + 1) = daysBeforeYear year + if isLeapYear year then 366 else 365 := by
  have quarter : (year + 1 + 3) / 4 = (year + 3) / 4 + if year % 4 = 0 then 1 else 0 := by
    split <;> omega
  have century : (year + 1 + 99) / 100 = (year + 99) / 100 + if year % 100 = 0 then 1 else 0 := by
    split <;> omega
  have era : (year + 1 + 399) / 400 = (year + 399) / 400 + if year % 400 = 0 then 1 else 0 := by
    split <;> omega
  have leap : isLeapYear year = true ↔ year % 4 = 0 ∧ (year % 100 ≠ 0 ∨ year % 400 = 0) := by
    simp [isLeapYear]
  have fewer : (year + 99) / 100 ≤ (year + 3) / 4 := by omega
  simp only [daysBeforeYear, leap, quarter, century, era]
  split <;> split <;> split <;> split <;> omega

theorem foldr_days (year init : Nat) (months : List Nat) :
    months.foldr (fun m days => daysInMonth year (m + 1) + days) init =
      months.foldr (fun m days => daysInMonth year (m + 1) + days) 0 + init := by
  induction months with
  | nil => exact (Nat.zero_add init).symm
  | cons m months inductionHypothesis =>
      rw [List.foldr_cons, List.foldr_cons, inductionHypothesis, Nat.add_assoc]

theorem daysBeforeMonth_succ (year : Nat) {month : Nat} (first : 1 ≤ month) :
    daysBeforeMonth year (month + 1) = daysBeforeMonth year month + daysInMonth year month := by
  obtain ⟨before, rfl⟩ := Nat.exists_eq_add_of_le' first
  rw [daysBeforeMonth, daysBeforeMonth, Nat.add_sub_cancel, Nat.add_sub_cancel, List.range_succ,
    List.foldr_append, List.foldr_cons, List.foldr_nil, Nat.add_zero, foldr_days]

/-- A year has 365 days, or 366. -/
theorem daysBeforeMonth_thirteen (year : Nat) :
    daysBeforeMonth year 13 = if isLeapYear year then 366 else 365 := by
  cases leap : isLeapYear year with
  | true => simp [daysBeforeMonth, List.range, List.range.loop, daysInMonth, leap]
  | false => simp [daysBeforeMonth, List.range, List.range.loop, daysInMonth, leap]

/-! ### Counting on -/

/-- The number of a day, counted from the first of January of year zero. -/
def ordinal (d : Day) : Nat :=
  daysBeforeYear d.year + daysBeforeMonth d.year d.month + (d.day - 1)

/-- Days are numbered from the first of 1970. -/
theorem dayNumber_eq (d : Day) : dayNumber d.year d.month d.day = d.ordinal - 719528 :=
  rfl

/-- Behind a day of the calendar comes another. -/
theorem Real.next {d : Day} (real : d.Real) : d.next.Real := by
  obtain ⟨⟨first, last⟩, one, most⟩ := real
  rw [Day.next]
  split
  · exact ⟨⟨first, last⟩, by dsimp only; omega⟩
  · split
    · have := daysInMonth_bounds d.year (d.month + 1)
      exact ⟨by dsimp only; omega, by dsimp only; omega⟩
    · have := daysInMonth_bounds (d.year + 1) 1
      exact ⟨by dsimp only; omega, by dsimp only; omega⟩

/-- And that has the next number. -/
theorem Real.ordinal_next {d : Day} (real : d.Real) : d.next.ordinal = d.ordinal + 1 := by
  obtain ⟨⟨first, last⟩, one, most⟩ := real
  rw [Day.next]
  split
  · simp only [ordinal]
    omega
  · split
    · have month := daysBeforeMonth_succ d.year first
      simp only [ordinal, month]
      omega
    · have december : d.month = 12 := by omega
      have month := @daysBeforeMonth_succ d.year 12 (by decide)
      have year := daysBeforeYear_succ d.year
      have january : daysBeforeMonth (d.year + 1) 1 = 0 := rfl
      rw [december] at most
      rw [daysBeforeMonth_thirteen] at month
      simp only [ordinal, january, december] at *
      omega

/-- Every day but the first comes after one. -/
theorem Real.exists_before {d : Day} (real : d.Real) (later : d.ordinal ≠ 0) :
    ∃ before : Day, before.Real ∧ before.next = d := by
  obtain ⟨year, month, day⟩ := d
  obtain ⟨⟨first, last⟩, one, most⟩ := real
  dsimp only at first last one most
  by_cases start : day = 1
  · by_cases january : month = 1
    · have past : year ≠ 0 := by
        rintro rfl
        rw [start, january] at later
        exact later rfl
      obtain ⟨before, rfl⟩ := Nat.exists_eq_succ_of_ne_zero past
      refine ⟨⟨before, 12, 31⟩, ⟨⟨Nat.le_add_left 1 11, Nat.le_refl 12⟩, Nat.le_add_left 1 30,
        Nat.le_refl 31⟩, ?_⟩
      rw [start, january]
      exact (if_neg (Nat.lt_irrefl 31)).trans (if_neg (Nat.lt_irrefl 12))
    · obtain ⟨before, rfl⟩ := Nat.exists_eq_add_of_le' first
      have bounds := daysInMonth_bounds year before
      refine ⟨⟨year, before, daysInMonth year before⟩, ⟨?_, ?_⟩, ?_⟩
      · dsimp only
        omega
      · dsimp only
        omega
      · rw [Day.next, if_neg (Nat.lt_irrefl _), if_pos (by dsimp only; omega), start]
  · refine ⟨⟨year, month, day - 1⟩, ⟨⟨first, last⟩, ?_⟩, ?_⟩
    · dsimp only
      omega
    · rw [Day.next, if_pos (by dsimp only; omega)]
      congr 1
      dsimp only
      omega

/-- The day that no day comes before. -/
theorem Real.eq_first {d : Day} (real : d.Real) (none : d.ordinal = 0) : d = ⟨0, 1, 1⟩ := by
  obtain ⟨year, month, day⟩ := d
  obtain ⟨⟨first, last⟩, one, most⟩ := real
  dsimp only [ordinal] at first last one most none
  obtain _ | year := year
  · obtain _ | _ | month := month
    · exact absurd first (by decide)
    · have : day = 1 := by omega
      rw [this]
    · have := daysBeforeMonth_succ 0 (Nat.le_add_left 1 month)
      have := daysInMonth_bounds 0 (month + 1)
      omega
  · have := daysBeforeYear_succ year
    split at this <;> omega

/-! ### Counting and the number of a day -/

theorem real_epoch : Real ⟨1970, 1, 1⟩ :=
  ⟨⟨Nat.le_refl 1, Nat.le_add_left 1 11⟩, Nat.le_refl 1, Nat.le_add_left 1 30⟩

/-- What counts to a day is the number of a day of the calendar. -/
theorem Counts.real_and_eq {d : Day} {n : Int} (counts : Counts d n) :
    d.Real ∧ n = d.ordinal - 719528 := by
  induction counts with
  | epoch => exact ⟨real_epoch, rfl⟩
  | on _ inductionHypothesis =>
      obtain ⟨real, number⟩ := inductionHypothesis
      have := real.ordinal_next
      exact ⟨real.next, by omega⟩
  | back real _ inductionHypothesis =>
      have := real.ordinal_next
      exact ⟨real, by omega⟩

/-- Counting back from a day that counts reaches the first. -/
theorem Real.counts_first {d : Day} (real : d.Real) (counts : Counts d (d.ordinal - 719528)) :
    Counts ⟨0, 1, 1⟩ (-719528) := by
  induction number : d.ordinal generalizing d with
  | zero =>
      rw [number, real.eq_first number] at counts
      exact counts
  | succ k inductionHypothesis =>
      obtain ⟨before, real', rfl⟩ := real.exists_before (by omega)
      have one := real'.ordinal_next
      refine inductionHypothesis real' ?_ (by omega)
      have earlier := Counts.back real' counts
      rwa [one, show ((before.ordinal + 1 : Nat) : Int) - 719528 - 1 = before.ordinal - 719528 by
        omega] at earlier

/-- Counting on from the first day reaches every other. -/
theorem Real.counts {d : Day} (real : d.Real) : Counts d (d.ordinal - 719528) := by
  have first := real_epoch.counts_first Counts.epoch
  induction number : d.ordinal generalizing d with
  | zero =>
      rw [real.eq_first number]
      exact first
  | succ k inductionHypothesis =>
      obtain ⟨before, real', rfl⟩ := real.exists_before (by omega)
      have one := real'.ordinal_next
      have later := (inductionHypothesis real' (by omega)).on
      rwa [show (k : Int) - 719528 + 1 = (k + 1 : Nat) - 719528 by omega] at later

/-- The number of a day is the one that counting gives it. -/
theorem counts_iff {d : Day} (real : d.Real) (n : Int) :
    Counts d n ↔ n = dayNumber d.year d.month d.day := by
  rw [dayNumber_eq]
  constructor
  · exact fun counts => counts.real_and_eq.2
  · rintro rfl
    exact real.counts

end Day

end LedgerAgent.Timestamp
