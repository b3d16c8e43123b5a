/-
Module: LedgerAgent.Text.Numeral
Purpose: Decimal integers: reading them under a bound, writing them at a width.
Main exports: Text.Numeral.unsigned, Text.Numeral.signed, Text.Numeral.padded
-/

namespace LedgerAgent.Text

/-- Why a text is not an integer of the wanted range. -/
inductive NumeralError where
  | empty
  | invalidDigit
  | tooLarge
  | tooSmall
deriving Repr, Inhabited, DecidableEq

namespace NumeralError

def message : NumeralError → String
  | .empty => "cannot parse integer from empty string"
  | .invalidDigit => "invalid digit found in string"
  | .tooLarge => "number too large to fit in target type"
  | .tooSmall => "number too small to fit in target type"

end NumeralError

namespace Numeral

/-- The value of an ASCII digit; digits of other scripts have none. -/
def digit? (c : Char) : Option Nat :=
  if 48 ≤ c.toNat ∧ c.toNat ≤ 57 then some (c.toNat - 48) else none

def isDigit (c : Char) : Bool :=
  48 ≤ c.toNat && c.toNat ≤ 57

/-- The value of `digits` written behind the digits of `value`.  Reading stops
at the first character that is no digit or that takes the value to `limit`. -/
def extend (limit : Nat) (past : NumeralError) (value : Nat) :
    List Char → Except NumeralError Nat
  | [] => .ok value
  | c :: rest =>
    match digit? c with
    | none => .error .invalidDigit
    | some d =>
      let next := value * 10 + d
      if next < limit then extend limit past next rest else .error past

/-- An unsigned integer below `limit`: digits, leading zeros allowed, after at
most one plus sign. -/
def unsigned (limit : Nat) : List Char → Except NumeralError Nat
  | [] => .error .empty
  | ['+'] => .error .invalidDigit
  | '+' :: digits => extend limit .tooLarge 0 digits
  | digits => extend limit .tooLarge 0 digits

/-- An integer in `[-bound, bound)`: digits after at most one sign. -/
def signed (bound : Nat) : List Char → Except NumeralError Int
  | [] => .error .empty
  | ['+'] => .error .invalidDigit
  | ['-'] => .error .invalidDigit
  | '+' :: digits => (extend bound .tooLarge 0 digits).map Int.ofNat
  | '-' :: digits => (extend (bound + 1) .tooSmall 0 digits).map fun n => -(n : Int)
  | digits => (extend bound .tooLarge 0 digits).map Int.ofNat

def uint64 (text : List Char) : Except NumeralError UInt64 :=
  (unsigned (Nat.pow 2 64) text).map UInt64.ofNat

def uint32 (text : List Char) : Except NumeralError UInt32 :=
  (unsigned (Nat.pow 2 32) text).map UInt32.ofNat

def int64 (text : List Char) : Except NumeralError Int64 :=
  (signed (Nat.pow 2 63) text).map Int64.ofInt

/-- The digits of a natural number, most significant first. -/
def digits (n : Nat) : List Char :=
  Nat.toDigits 10 n

/-- The digits of `n`, with zeros in front up to `width` characters. -/
def padded (width n : Nat) : List Char :=
  let ds := digits n
  List.replicate (width - ds.length) '0' ++ ds

/-- `text` with zeros behind it up to `width` characters. -/
def padRight (width : Nat) (text : List Char) : List Char :=
  text ++ List.replicate (width - text.length) '0'

@[simp] theorem extend_nil (limit value : Nat) (past : NumeralError) :
    extend limit past value [] = .ok value := rfl

/-- What is wide enough is not padded. -/
theorem padRight_of_le {width : Nat} {text : List Char} (h : width ≤ text.length) :
    padRight width text = text := by
  simp [padRight, Nat.sub_eq_zero_of_le h]

end Numeral

end LedgerAgent.Text
