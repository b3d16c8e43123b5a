/-
Module: LedgerAgent.Decimal.Shortest
Purpose: The fewest decimal digits that read back as a given number, and the two
  ways of writing them down.
Main exports: Decimal.shortest, Decimal.positional, Decimal.withExponent
-/
import LedgerAgent.Decimal.Binary64

namespace LedgerAgent.Decimal

structure Scientific where
  digits : Nat
  exponent : Int
deriving Repr, Inhabited, DecidableEq

namespace Scientific

/-- The same value without zeros at the end of its digits. -/
def strip (fuel : Nat) (d : Scientific) : Scientific :=
  match fuel with
  | 0 => d
  | fuel + 1 =>
    if d.digits ≠ 0 ∧ d.digits % 10 = 0 then strip fuel ⟨d.digits / 10, d.exponent + 1⟩ else d

end Scientific

/-- The reals that read back as a number, each end as a numerator over `den`;
the ends belong to it when `closed`. -/
structure Interval where
  low : Nat
  value : Nat
  high : Nat
  den : Nat
  closed : Bool
deriving Repr

/-- The interval of a number other than zero.  It reaches halfway to either
neighbour, and the lower neighbour of a power of two is half as far away. -/
def Interval.of (x : Binary64) : Interval :=
  let below := if x.mantissa = Nat.pow 2 52 ∧ x.exponent ≠ Binary64.minExponent then 1 else 2
  let scale := if 0 ≤ x.exponent then Nat.pow 2 x.exponent.toNat else 1
  { low := (4 * x.mantissa - below) * scale
    value := 4 * x.mantissa * scale
    high := (4 * x.mantissa + 2) * scale
    den := 4 * (if 0 ≤ x.exponent then 1 else Nat.pow 2 (-x.exponent).toNat)
    closed := x.mantissa % 2 = 0 }

/-- Whether `n * 10 ^ e` reads back as the number. -/
def Interval.contains (i : Interval) (n : Nat) (e : Int) : Bool :=
  let (num, den) := Binary64.powerOfTen e
  let point := n * num * i.den
  let low := i.low * den
  let high := i.high * den
  if i.closed then low ≤ point && point ≤ high else low < point && point < high

/-- The exponent of the power of ten that begins the value's decimal form. -/
def Interval.leading (i : Interval) : Int :=
  if i.den ≤ i.value then ((Nat.toDigits 10 (i.value / i.den)).length : Int) - 1
  else -((Nat.toDigits 10 (i.den / i.value)).length : Int)

/-- The nearer of the two neighbours with `count` digits, among those that read
back; of two equally near ones the even one. -/
def Interval.neighbour? (i : Interval) (count : Nat) : Option Scientific :=
  let e := i.leading + 1 - (count : Int)
  let (num, den) := Binary64.powerOfTen e
  let scaledValue := i.value * den
  let unit := i.den * num
  let below := scaledValue / unit
  let remainder := scaledValue % unit
  match i.contains below e, i.contains (below + 1) e with
  | true, false => some ⟨below, e⟩
  | false, true => some ⟨below + 1, e⟩
  | false, false => none
  | true, true =>
    if 2 * remainder < unit ∨ (2 * remainder = unit ∧ below % 2 = 0) then some ⟨below, e⟩
    else some ⟨below + 1, e⟩

/-- The fewest digits that read back as the number, its sign set aside.
Seventeen digits always do. -/
def shortest (x : Binary64) : Scientific :=
  if x.mantissa = 0 then ⟨0, 0⟩
  else
    let i := Interval.of x
    match (List.range 17).findSome? fun n => i.neighbour? (n + 1) with
    | some d => d.strip 20
    | none => ⟨i.value / i.den, 0⟩

/-- All digits of a decimal, with a point among them only if it has a fraction. -/
def positional (d : Scientific) : List Char :=
  let ds := Nat.toDigits 10 d.digits
  let point := (ds.length : Int) + d.exponent
  if 0 ≤ d.exponent then
    ds ++ List.replicate (if d.digits = 0 then 0 else d.exponent.toNat) '0'
  else if 0 < point then ds.take point.toNat ++ '.' :: ds.drop point.toNat
  else '0' :: '.' :: List.replicate (-point).toNat '0' ++ ds

/-- One digit before the point and the signed exponent behind the others. -/
def withExponent (d : Scientific) : List Char :=
  let ds := Nat.toDigits 10 d.digits
  let e := (ds.length : Int) + d.exponent - 1
  let sign := if e < 0 then '-' else '+'
  ds.take 1 ++ (if ds.length = 1 then [] else '.' :: ds.drop 1) ++
    'e' :: sign :: Nat.toDigits 10 e.natAbs

end LedgerAgent.Decimal
