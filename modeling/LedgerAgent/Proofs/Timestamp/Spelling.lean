/-
Module: LedgerAgent.Proofs.Timestamp.Spelling
Purpose: Which texts are dates with a time and an offset, and the moment each is read as.
Main exports: Timestamp.DateTime, Timestamp.DateTime.Real, Timestamp.Spells,
  Timestamp.parse?_eq_some_iff
-/
import LedgerAgent.Proofs.Amount
import LedgerAgent.Proofs.Timestamp.Calendar
import Mathlib.Algebra.Order.Floor.Semifield
import Mathlib.Data.Rat.Floor

namespace LedgerAgent.Timestamp

open Nat (ofDigitChars)
open Text Text.Numeral
open Amount (decimal)

/-- A date, a time of day and an offset, as a text names them. -/
structure DateTime where
  day : Day
  hour : Nat
  minute : Nat
  second : Nat
  /-- The digits behind the point of the second; none, if it has no point. -/
  fraction : List Char
  /-- How many minutes the clock is ahead of universal time. -/
  ahead : Int

/-- The calendar has the day and the clock the time.  A sixtieth second is a leap second. -/
structure DateTime.Real (t : DateTime) : Prop where
  day : t.day.Real
  hour : t.hour ≤ 23
  minute : t.minute ≤ 59
  second : t.second ≤ 60

/-- A number in so many digits. -/
structure Digits (width n : Nat) (ds : List Char) : Prop where
  length : ds.length = width
  digital : ∀ c ∈ ds, isDigit c = true
  value : ofDigitChars 10 ds 0 = n

/-- The fraction of a second: nothing, or digits behind a point. -/
inductive Fraction : List Char → List Char → Prop where
  | none : Fraction [] []
  | pointed {ds : List Char} (nonempty : ds ≠ []) (digital : ∀ c ∈ ds, isDigit c = true) :
      Fraction ('.' :: ds) ds

/-- An offset of so many minutes: universal time, or hours and minutes ahead of it or behind. -/
inductive Offset : List Char → Int → Prop where
  | universal {mark : Char} (letter : mark = 'Z' ∨ mark = 'z') : Offset [mark] 0
  | ahead {hs ms : List Char} {hours minutes : Nat} (hour : Digits 2 hours hs)
      (minute : Digits 2 minutes ms) (hours_le : hours ≤ 23) (minutes_le : minutes ≤ 59) :
      Offset ('+' :: (hs ++ ':' :: ms)) (hours * 60 + minutes)
  | behind {sign : Char} {hs ms : List Char} {hours minutes : Nat}
      (minus : sign = '-' ∨ sign = '\u2212') (hour : Digits 2 hours hs)
      (minute : Digits 2 minutes ms) (hours_le : hours ≤ 23) (minutes_le : minutes ≤ 59) :
      Offset (sign :: (hs ++ ':' :: ms)) (-(hours * 60 + minutes))

/-- Characters spell a date and time: year, month and day between hyphens, a mark, hour,
minute and second between colons, a fraction of the second, and the offset. -/
inductive Spells : List Char → DateTime → Prop where
  | dated {t : DateTime} {ys ms ds hs ns ss fs zs : List Char} {mark : Char} (real : t.Real)
      (year : Digits 4 t.day.year ys) (month : Digits 2 t.day.month ms)
      (day : Digits 2 t.day.day ds) (marked : mark = 'T' ∨ mark = 't' ∨ mark = ' ')
      (hour : Digits 2 t.hour hs) (minute : Digits 2 t.minute ns) (second : Digits 2 t.second ss)
      (fraction : Fraction fs t.fraction) (offset : Offset zs t.ahead) :
      Spells (ys ++ '-' :: (ms ++ '-' :: (ds ++ mark :: (hs ++ ':' :: (ns ++ ':' ::
        (ss ++ (fs ++ zs))))))) t

/-! ### Fields -/

theorem digit?_eq_some_iff {c : Char} {n : Nat} :
    digit? c = some n ↔ isDigit c = true ∧ c.toNat - '0'.toNat = n := by
  by_cases digit : isDigit c = true
  · rw [digit?_of_isDigit digit, Option.some.injEq, and_iff_right digit]
    rfl
  · simp [digit?_of_not_isDigit digit, digit]

/-- Two characters are a number exactly if they are the two digits of it. -/
theorem twoDigits?_eq_some_iff {a b : Char} {n : Nat} :
    twoDigits? a b = some n ↔ Digits 2 n [a, b] := by
  simp only [twoDigits?, Option.bind_eq_bind, Option.bind_eq_some_iff, Option.pure_def,
    Option.some.injEq, digit?_eq_some_iff]
  constructor
  · rintro ⟨x, ⟨digit, rfl⟩, y, ⟨digit', rfl⟩, rfl⟩
    refine ⟨rfl, by simp [digit, digit'], ?_⟩
    simp [Nat.ofDigitChars_cons]
  · rintro ⟨-, digital, value⟩
    refine ⟨_, ⟨digital a (by simp), rfl⟩, _, ⟨digital b (by simp), rfl⟩, ?_⟩
    simpa [Nat.ofDigitChars_cons] using value

/-- Four characters are a number exactly if they are the four digits of it. -/
theorem fourDigits?_eq_some_iff {a b c d : Char} {n : Nat} :
    fourDigits? a b c d = some n ↔ Digits 4 n [a, b, c, d] := by
  simp only [fourDigits?, Option.bind_eq_bind, Option.bind_eq_some_iff, Option.pure_def,
    Option.some.injEq, twoDigits?_eq_some_iff]
  constructor
  · rintro ⟨x, ⟨-, digital, rfl⟩, y, ⟨-, digital', rfl⟩, rfl⟩
    refine ⟨rfl, ?_, ?_⟩
    · simp only [List.forall_mem_cons] at digital digital' ⊢
      exact ⟨digital.1, digital.2.1, digital'⟩
    · simp only [Nat.ofDigitChars_cons, Nat.ofDigitChars_nil]
      omega
  · rintro ⟨-, digital, value⟩
    simp only [List.forall_mem_cons] at digital
    refine ⟨_, ⟨rfl, ?_, rfl⟩, _, ⟨rfl, ?_, rfl⟩, ?_⟩
    · simp [digital]
    · simp [digital]
    · simp only [Nat.ofDigitChars_cons, Nat.ofDigitChars_nil] at value ⊢
      omega

theorem Digits.eq_pair {n : Nat} {ds : List Char} (field : Digits 2 n ds) : ∃ a b, ds = [a, b] :=
  List.length_eq_two.1 field.length

/-! ### The fraction of a second -/

/-- The whole nanoseconds of a fraction: digits past the ninth are dropped. -/
def nanosOf (fraction : List Char) : Nat :=
  ofDigitChars 10 (padRight 9 (fraction.take 9)) 0

/-- The nanoseconds of a fraction are its whole part in them. -/
theorem nanosOf_eq (fraction : List Char) (digital : ∀ c ∈ fraction, isDigit c = true) :
    nanosOf fraction = ⌊decimal [] fraction * 10 ^ 9⌋₊ := by
  have quotient : decimal [] fraction * 10 ^ 9 =
      (ofDigitChars 10 fraction 0 * 10 ^ 9 : Nat) / (10 ^ fraction.length : Nat) := by
    rw [Amount.decimal_eq, List.nil_append]
    push_cast
    ring
  rw [quotient, Nat.floor_div_eq_div, nanosOf, Amount.ofDigitChars_padRight]
  by_cases short : fraction.length ≤ 9
  · have split : 10 ^ 9 = 10 ^ (9 - fraction.length) * 10 ^ fraction.length := by
      rw [← pow_add, Nat.sub_add_cancel short]
    rw [List.take_of_length_le short, split, ← Nat.mul_assoc,
      Nat.mul_div_cancel _ (Nat.pow_pos (by decide))]
  · have long : (fraction.take 9).length = 9 := by
      rw [List.length_take]
      omega
    have split : 10 ^ fraction.length = 10 ^ (fraction.drop 9).length * 10 ^ 9 := by
      rw [← pow_add, List.length_drop]
      congr 1
      omega
    have rest : ofDigitChars 10 (fraction.drop 9) 0 < 10 ^ (fraction.drop 9).length :=
      ofDigitChars_lt fun c member => digital c (List.mem_of_mem_drop member)
    have parts : ofDigitChars 10 fraction 0 = 10 ^ (fraction.drop 9).length *
        ofDigitChars 10 (fraction.take 9) 0 + ofDigitChars 10 (fraction.drop 9) 0 := by
      conv_lhs => rw [← List.take_append_drop 9 fraction, Nat.ofDigitChars_append,
        Nat.ofDigitChars_eq_ofDigitChars_zero]
    rw [long, Nat.sub_self, pow_zero, Nat.mul_one, split,
      Nat.mul_div_mul_right _ _ (Nat.pow_pos (by decide)), parts,
      Nat.mul_add_div (Nat.pow_pos (by decide)), Nat.div_eq_of_lt rest, Nat.add_zero]

/-- A fraction is less than a second. -/
theorem nanosOf_lt (fraction : List Char) (digital : ∀ c ∈ fraction, isDigit c = true) :
    nanosOf fraction < 10 ^ 9 := by
  have nine : (padRight 9 (fraction.take 9)).length = 9 :=
    Amount.length_padRight (List.length_take_le 9 fraction)
  have digital' : ∀ c ∈ fraction.take 9, isDigit c = true :=
    fun c member => digital c (List.mem_of_mem_take member)
  have small := ofDigitChars_lt (@Amount.digital_padRight 9 _ digital')
  rwa [nine] at small

theorem Fraction.digital {fs ds : List Char} (fraction : Fraction fs ds) :
    ∀ c ∈ ds, isDigit c = true := by
  cases fraction with
  | none => exact nofun
  | pointed nonempty digital => exact digital

/-- A fraction that is read was spelled there. -/
theorem Fraction.of_fraction? {rest zs : List Char} {nanos : Nat}
    (read : fraction? rest = some (nanos, zs)) :
    ∃ fs ds, Fraction fs ds ∧ rest = fs ++ zs ∧ nanosOf ds = nanos := by
  unfold fraction? at read
  split at read
  · rename_i rest
    simp only at read
    split at read
    · cases read
    · rename_i nonempty
      obtain ⟨n, extended, same⟩ := Option.map_eq_some_iff.1 read
      cases same
      have digital : ∀ c ∈ rest.takeWhile isDigit, isDigit c = true :=
        fun c => List.mem_takeWhile_imp
      refine ⟨_, _, .pointed (by simpa using nonempty) digital, ?_, ?_⟩
      · rw [List.cons_append, List.takeWhile_append_dropWhile]
      · cases ok : extend 1000000000 .tooLarge 0
            (padRight 9 ((rest.takeWhile isDigit).take 9)) with
        | error past => simp [ok, Except.toOption] at extended
        | ok value =>
            rw [ok] at extended
            cases extended
            exact ((extend_eq_ok_iff (by decide)).1 ok).2.1
  · cases read
    exact ⟨[], [], .none, rfl, rfl⟩

/-- A fraction that is spelled is read up to where it stops. -/
theorem Fraction.fraction? {fs ds zs : List Char} (fraction : Fraction fs ds)
    (stops : ∀ c ∈ zs.head?, c ≠ '.' ∧ ¬ isDigit c = true) :
    Timestamp.fraction? (fs ++ zs) = some (nanosOf ds, zs) := by
  cases fraction with
  | none =>
      rw [List.nil_append]
      unfold Timestamp.fraction?
      split
      · exact absurd rfl (stops '.' rfl).1
      · rfl
  | pointed nonempty digital =>
      have own : (ds ++ zs).takeWhile isDigit = ds := by
        rw [List.takeWhile_append_of_pos digital]
        cases zs with
        | nil => simp
        | cons z zs => simp [(stops z rfl).2]
      have rest : (ds ++ zs).dropWhile isDigit = zs := by
        rw [List.dropWhile_append_of_pos digital]
        cases zs with
        | nil => rfl
        | cons z zs => simp [(stops z rfl).2]
      have read : extend 1000000000 .tooLarge 0 (padRight 9 (ds.take 9)) = .ok (nanosOf ds) :=
        (extend_eq_ok_iff (by decide)).2 ⟨Amount.digital_padRight fun c member =>
          digital c (List.mem_of_mem_take member), rfl, nanosOf_lt ds digital⟩
      simp only [List.cons_append, Timestamp.fraction?, own, rest, read]
      rw [if_neg (by simpa using nonempty)]
      rfl

/-! ### The offset -/

theorem Offset.stops {zs : List Char} {minutes : Int} (offset : Offset zs minutes) :
    ∀ c ∈ zs.head?, c ≠ '.' ∧ ¬ isDigit c = true := by
  intro c first
  cases offset with
  | universal letter =>
      cases first
      obtain rfl | rfl := letter <;> decide
  | ahead =>
      cases first
      decide
  | behind minus =>
      cases first
      obtain rfl | rfl := minus <;> decide

theorem offsetSign?_eq_some_iff {c : Char} {s : Int} :
    offsetSign? c = some s ↔ c = '+' ∧ s = 1 ∨ (c = '-' ∨ c = '\u2212') ∧ s = -1 := by
  have mathematical : c.toNat = 0x2212 ↔ c = '\u2212' := by
    rw [← Char.toNat_inj]
    rfl
  rw [offsetSign?]
  by_cases plus : c = '+'
  · simp [plus, eq_comm]
  · by_cases minus : c = '-' ∨ c.toNat = 0x2212
    · rw [if_neg plus, if_pos (by simpa using minus)]
      rw [mathematical] at minus
      simp [plus, minus, eq_comm]
    · rw [if_neg plus, if_neg (by simpa using minus)]
      rw [mathematical] at minus
      simp [plus, minus]

/-- An offset that is read was spelled there. -/
theorem Offset.of_offset? {zs : List Char} {seconds : Int} (read : offset? zs = some seconds) :
    ∃ minutes, Offset zs minutes ∧ seconds = minutes * 60 := by
  unfold offset? at read
  split at read
  · cases read
    exact ⟨0, .universal (.inl rfl), rfl⟩
  · cases read
    exact ⟨0, .universal (.inr rfl), rfl⟩
  · simp only [Option.bind_eq_bind, Option.bind_eq_some_iff, offsetSign?_eq_some_iff,
      twoDigits?_eq_some_iff] at read
    obtain ⟨s, sign, hours, hour, minutes, minute, judged⟩ := read
    split at judged
    · cases judged
    · rename_i clock
      cases judged
      obtain ⟨rfl, rfl⟩ | ⟨minus, rfl⟩ := sign
      · refine ⟨_, .ahead hour minute (by omega) (by omega), ?_⟩
        push_cast
        ring
      · refine ⟨_, .behind minus hour minute (by omega) (by omega), ?_⟩
        push_cast
        ring
  · cases read

/-- An offset that is spelled is read. -/
theorem Offset.offset? {zs : List Char} {minutes : Int} (offset : Offset zs minutes) :
    Timestamp.offset? zs = some (minutes * 60) := by
  have signed {sign : Char} {s : Int} {hs ms : List Char} {hours minutes : Nat}
      (sign' : offsetSign? sign = some s) (hour : Digits 2 hours hs) (minute : Digits 2 minutes ms)
      (hours_le : hours ≤ 23) (minutes_le : minutes ≤ 59) :
      Timestamp.offset? (sign :: (hs ++ ':' :: ms)) =
        some (s * ((hours * 60 + minutes) * 60 : Nat)) := by
    obtain ⟨a, b, rfl⟩ := hour.eq_pair
    obtain ⟨c, d, rfl⟩ := minute.eq_pair
    simp only [List.cons_append, List.nil_append, Timestamp.offset?, sign',
      twoDigits?_eq_some_iff.2 hour, twoDigits?_eq_some_iff.2 minute, Option.bind_eq_bind,
      Option.bind_some]
    rw [if_neg (by omega)]
  cases offset with
  | universal letter => obtain rfl | rfl := letter <;> rfl
  | ahead hour minute hours_le minutes_le =>
      rw [signed (offsetSign?_eq_some_iff.2 (.inl ⟨rfl, rfl⟩)) hour minute hours_le minutes_le]
      congr 1
      push_cast
      ring
  | behind minus hour minute hours_le minutes_le =>
      rw [signed (offsetSign?_eq_some_iff.2 (.inr ⟨minus, rfl⟩)) hour minute hours_le minutes_le]
      congr 1
      push_cast
      ring

/-! ### The moment that is read -/

/-- The timestamp of a date and time: a leap second is the fifty-ninth second with a thousand
million nanoseconds more. -/
def DateTime.reading (t : DateTime) : Timestamp where
  seconds := dayNumber t.day.year t.day.month t.day.day * 86400 +
    (t.hour * 3600 + t.minute * 60 + min t.second 59 : Nat) - t.ahead * 60
  nanos := nanosOf t.fraction + (t.second - 59) * 1000000000

/-- A time of day is made of an hour, a minute and a second that the clock can show, leap seconds
included. -/
theorem timeOfDay?_eq_some_iff {hour minute second nanos time total : Nat} :
    timeOfDay? hour minute second nanos = some (time, total) ↔
      (hour ≤ 23 ∧ minute ≤ 59 ∧ second ≤ 60) ∧
        hour * 3600 + minute * 60 + min second 59 = time ∧
          nanos + (second - 59) * 1000000000 = total := by
  rw [timeOfDay?]
  split
  · simp only [reduceCtorEq, false_iff]
    omega
  · split
    · simp only [Option.some.injEq, Prod.mk.injEq]
      omega
    · simp only [Option.some.injEq, Prod.mk.injEq]
      omega

/-- Characters are read as a timestamp exactly if they spell a date and time with it. -/
theorem ofChars?_eq_some_iff {cs : List Char} {stamp : Timestamp} :
    ofChars? cs = some stamp ↔ ∃ t, Spells cs t ∧ t.reading = stamp := by
  constructor
  · intro read
    unfold ofChars? at read
    split at read
    · rename_i mark _ _ _ _ _ _ rest
      simp only [Option.bind_eq_bind, Option.bind_none, Option.pure_def,
        Option.ite_none_left_eq_some, Option.bind_eq_some_iff, fourDigits?_eq_some_iff,
        twoDigits?_eq_some_iff, Prod.exists, timeOfDay?_eq_some_iff, Option.some.injEq] at read
      obtain ⟨year, y, month, m, day, d, marked, hour, h, minute, n, second, s, nanos, zs,
        f, seconds, o, calendar, time, total, ⟨⟨hour_le, minute_le, second_le⟩, rfl, rfl⟩,
        rfl⟩ := read
      obtain ⟨fs, ds, fraction, rfl, rfl⟩ := Fraction.of_fraction? f
      obtain ⟨minutes, offset, rfl⟩ := Offset.of_offset? o
      have day_real : Day.Real ⟨year, month, day⟩ :=
        ⟨⟨by dsimp only; omega, by dsimp only; omega⟩, by dsimp only; omega, by dsimp only; omega⟩
      have letter : mark = 'T' ∨ mark = 't' ∨ mark = ' ' := by tauto
      have spells := Spells.dated (t := ⟨⟨year, month, day⟩, hour, minute, second, ds, minutes⟩)
        ⟨day_real, hour_le, minute_le, second_le⟩ y m d letter h n s fraction offset
      exact ⟨_, spells, rfl⟩
    · cases read
  · rintro ⟨t, spells, rfl⟩
    cases spells with
    | @dated _ ys ms ds hs ns ss fs zs mark real year month day marked hour minute second fraction
        offset =>
        obtain ⟨y1, y2, y3, y4, rfl⟩ : ∃ a b c d, ys = [a, b, c, d] :=
          List.length_eq_four.1 year.length
        obtain ⟨m1, m2, rfl⟩ := month.eq_pair
        obtain ⟨d1, d2, rfl⟩ := day.eq_pair
        obtain ⟨h1, h2, rfl⟩ := hour.eq_pair
        obtain ⟨n1, n2, rfl⟩ := minute.eq_pair
        obtain ⟨s1, s2, rfl⟩ := second.eq_pair
        simp only [List.cons_append, List.nil_append, ofChars?, Option.bind_eq_bind,
          Option.bind_none, Option.pure_def, Option.ite_none_left_eq_some, Option.bind_eq_some_iff,
          fourDigits?_eq_some_iff, twoDigits?_eq_some_iff, Prod.exists, timeOfDay?_eq_some_iff,
          Option.some.injEq]
        obtain ⟨⟨⟨first, last⟩, one, most⟩, hour_le, minute_le, second_le⟩ := real
        exact ⟨_, year, _, month, _, day, by tauto, _, hour, _, minute, _, second, _, _,
          fraction.fraction? offset.stops, _, offset.offset?, by omega, _, _,
          ⟨⟨hour_le, minute_le, second_le⟩, rfl, rfl⟩, rfl⟩

/-- A text has a timestamp exactly if it spells a date and time, white space around it. -/
theorem parse?_eq_some_iff {text : String} {stamp : Timestamp} :
    parse? text = some stamp ↔ ∃ t, Spells (trimmed text.toList) t ∧ t.reading = stamp :=
  ofChars?_eq_some_iff

theorem Spells.real {cs : List Char} {t : DateTime} (spells : Spells cs t) : t.Real := by
  cases spells with
  | dated real => exact real

theorem Spells.digital {cs : List Char} {t : DateTime} (spells : Spells cs t) :
    ∀ c ∈ t.fraction, isDigit c = true := by
  cases spells with
  | dated _ _ _ _ _ _ _ _ fraction => exact fraction.digital

end LedgerAgent.Timestamp
