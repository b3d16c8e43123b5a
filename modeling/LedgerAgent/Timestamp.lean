/-
Module: LedgerAgent.Timestamp
Purpose: Dates with a time and an offset, as seconds since 1970.
Main exports: Timestamp, Timestamp.parse?, Timestamp.toText
-/
import LedgerAgent.Text.Blank
import LedgerAgent.Text.Numeral

namespace LedgerAgent

open Text

/-- A moment: whole seconds since 1970 and nanoseconds.  The nanoseconds of a leap
second go on past a thousand million. -/
structure Timestamp where
  seconds : Int
  nanos : Nat
deriving Repr, Inhabited, DecidableEq

namespace Timestamp

def isLeapYear (year : Nat) : Bool :=
  year % 4 = 0 && (year % 100 ≠ 0 || year % 400 = 0)

def daysInMonth (year month : Nat) : Nat :=
  match month with
  | 2 => if isLeapYear year then 29 else 28
  | 4 => 30
  | 6 => 30
  | 9 => 30
  | 11 => 30
  | _ => 31

/-- The days of the years before a year, from year zero on. -/
def daysBeforeYear (year : Nat) : Nat :=
  365 * year + (year + 3) / 4 - (year + 99) / 100 + (year + 399) / 400

/-- The days of a year before a month. -/
def daysBeforeMonth (year month : Nat) : Nat :=
  (List.range (month - 1)).foldr (fun m days => daysInMonth year (m + 1) + days) 0

/-- The day's number, counted from the first of January 1970. -/
def dayNumber (year month day : Nat) : Int :=
  (daysBeforeYear year + daysBeforeMonth year month + (day - 1) : Nat) - (719528 : Int)

def twoDigits? (a b : Char) : Option Nat := do
  let x ← Numeral.digit? a
  let y ← Numeral.digit? b
  return 10 * x + y

def fourDigits? (a b c d : Char) : Option Nat := do
  let x ← twoDigits? a b
  let y ← twoDigits? c d
  return 100 * x + y

/-- Nanoseconds behind a point, if there is one: digits past the ninth are dropped. -/
def fraction? : List Char → Option (Nat × List Char)
  | '.' :: rest =>
    let ds := rest.takeWhile Numeral.isDigit
    if ds.isEmpty then none
    else
      let nine := Numeral.padRight 9 (ds.take 9)
      ((Numeral.extend 1000000000 .tooLarge 0 nine).toOption).map
        fun n => (n, rest.dropWhile Numeral.isDigit)
  | rest => some (0, rest)

/-- The sign of an offset; the mathematical minus counts too. -/
def offsetSign? (c : Char) : Option Int :=
  if c = '+' then some 1
  else if c = '-' || c.toNat = 0x2212 then some (-1)
  else none

/-- The offset from universal time in seconds: `Z`, or hours and minutes. -/
def offset? : List Char → Option Int
  | ['Z'] => some 0
  | ['z'] => some 0
  | [sign, a, b, ':', c, d] => do
    let s ← offsetSign? sign
    let hours ← twoDigits? a b
    let minutes ← twoDigits? c d
    if 23 < hours ∨ 59 < minutes then none else some (s * ((hours * 60 + minutes) * 60 : Nat))
  | _ => none

/-- The time of a day in seconds and nanoseconds.  A sixtieth second is the
fifty-ninth with a thousand million nanoseconds more. -/
def timeOfDay? (hour minute second nanos : Nat) : Option (Nat × Nat) :=
  if 23 < hour ∨ 59 < minute ∨ 60 < second then none
  else if second = 60 then some (hour * 3600 + minute * 60 + 59, nanos + 1000000000)
  else some (hour * 3600 + minute * 60 + second, nanos)

/-- The moment that characters spell: a date, `T` or a space, a time, an offset. -/
def ofChars? : List Char → Option Timestamp
  | y1 :: y2 :: y3 :: y4 :: '-' :: m1 :: m2 :: '-' :: d1 :: d2 :: t ::
      h1 :: h2 :: ':' :: n1 :: n2 :: ':' :: s1 :: s2 :: rest => do
    let year ← fourDigits? y1 y2 y3 y4
    let month ← twoDigits? m1 m2
    let day ← twoDigits? d1 d2
    if t ≠ 'T' ∧ t ≠ 't' ∧ t ≠ ' ' then none
    let hour ← twoDigits? h1 h2
    let minute ← twoDigits? n1 n2
    let second ← twoDigits? s1 s2
    let (nanos, rest) ← fraction? rest
    let offset ← offset? rest
    if month < 1 ∨ 12 < month ∨ day < 1 ∨ daysInMonth year month < day then none
    let (time, nanos) ← timeOfDay? hour minute second nanos
    return ⟨dayNumber year month day * 86400 + time - offset, nanos⟩
  | _ => none

/-- The moment that a text spells, white space around it. -/
def parse? (text : String) : Option Timestamp :=
  ofChars? (trimmed text.toList)

/-- Seconds, a point, and at least nine digits of nanoseconds. -/
def toText (t : Timestamp) : String :=
  String.ofList ((if t.seconds < 0 then ['-'] else []) ++ Numeral.digits t.seconds.natAbs ++
    '.' :: Numeral.padded 9 t.nanos)

end Timestamp

end LedgerAgent
