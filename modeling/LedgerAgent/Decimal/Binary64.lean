/-
Module: LedgerAgent.Decimal.Binary64
Purpose: Binary floating-point numbers of 64 bits as exact values, and the one
  nearest to a decimal.
Main exports: Decimal.Binary64, Decimal.Binary64.ofDecimal?, Decimal.roundDiv
-/

namespace LedgerAgent.Decimal

/-- The integer nearest to `num / den`; halfway cases go to the even neighbour. -/
def roundDiv (num den : Nat) : Nat :=
  let q := num / den
  let r := num % den
  if 2 * r < den then q
  else if den < 2 * r then q + 1
  else if q % 2 = 0 then q
  else q + 1

/-- A finite number `(-1)^negative * mantissa * 2^exponent`.  The mantissa has at
most 53 bits and is as large as the least exponent -1074 allows, so two numbers
are equal exactly when they are the same number, the two zeros kept apart. -/
structure Binary64 where
  negative : Bool
  mantissa : Nat
  exponent : Int
deriving Repr, Inhabited, DecidableEq

namespace Binary64

def minExponent : Int := -1074

def maxExponent : Int := 971

def zero (negative : Bool) : Binary64 :=
  ⟨negative, 0, minExponent⟩

/-- `10 ^ e` as a quotient of natural numbers. -/
def powerOfTen (e : Int) : Nat × Nat :=
  if 0 ≤ e then (Nat.pow 10 e.toNat, 1) else (1, Nat.pow 10 (-e).toNat)

/-- The integer nearest to `num / den / 2 ^ e`. -/
def scaled (num den : Nat) (e : Int) : Nat :=
  if 0 ≤ e then roundDiv num (den * Nat.pow 2 e.toNat)
  else roundDiv (num * Nat.pow 2 (-e).toNat) den

/-- The whole part of `num / den / 2 ^ e`. -/
def scaledFloor (num den : Nat) (e : Int) : Nat :=
  if 0 ≤ e then num / (den * Nat.pow 2 e.toNat) else num * Nat.pow 2 (-e).toNat / den

/-- The number nearest to the positive quotient `num / den`, unless that is past
the largest one. -/
def ofQuotient? (negative : Bool) (num den : Nat) : Option Binary64 :=
  let guess := max ((Nat.log2 num : Int) - (Nat.log2 den : Int) - 53) minExponent
  let e := if scaledFloor num den guess < Nat.pow 2 53 then guess else guess + 1
  let m := scaled num den e
  let (m, e) := if m < Nat.pow 2 53 then (m, e) else (Nat.pow 2 52, e + 1)
  if e ≤ maxExponent then some ⟨negative, m, e⟩ else none

/-- The number nearest to `(-1)^negative * digits * 10^exponent`, unless that is
past the largest one.  Values of more than 400 places before the point are too
large and those with 400 zeros after it are nearest to zero, whatever their
digits, so that no power of ten is ever computed for them. -/
def ofDecimal? (negative : Bool) (digits : Nat) (exponent : Int) : Option Binary64 :=
  if digits = 0 then some (zero negative)
  else
    let places := ((Nat.toDigits 10 digits).length : Int) + exponent
    if places < -400 then some (zero negative)
    else if 400 < places then none
    else
      let (num, den) := powerOfTen exponent
      ofQuotient? negative (digits * num) den

end Binary64

end LedgerAgent.Decimal
