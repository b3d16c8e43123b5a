/-
Module: LedgerAgent.Amount
Purpose: Amounts as people write them and as the ledger counts them.
Main exports: Amount.toBaseUnits, Amount.ofBaseUnits, Amount.toSigned, AmountError, Tinybars
-/
import LedgerAgent.Text.Blank
import LedgerAgent.Text.Split
import LedgerAgent.Text.Numeral

namespace LedgerAgent

open Text

/-- Why a text is no amount of base units. -/
inductive AmountError where
  | invalidFormat (text : String)
  | tooManyDecimals (allowed : UInt32)
  | unsupportedDecimals (decimals : UInt32)
  | overflow
deriving Repr, Inhabited, DecidableEq

def AmountError.message : AmountError → String
  | .invalidFormat text => s!"Invalid amount format: `{text}`"
  | .tooManyDecimals allowed => s!"Too many decimal places (max {allowed.toNat})"
  | .unsupportedDecimals decimals => s!"Unsupported decimals: {decimals.toNat}"
  | .overflow => "Amount overflow"

namespace Amount

/-- Decimal places of the ledger's own currency. -/
def hbarDecimals : UInt32 := 8

/-- The most decimal places an amount may have; ten to the nineteenth no longer
fits 64 bits. -/
def maxDecimals : UInt32 := 18

/-- The parts of a numeral before and behind its point.  There is a digit in one
of them, and nothing but digits in either. -/
def numeral? (cs : List Char) : Option (List Char × List Char) :=
  let (whole, fraction) := (cutAt '.' cs).getD (cs, [])
  if whole.isEmpty && fraction.isEmpty then none
  else if whole.all Numeral.isDigit && fraction.all Numeral.isDigit then some (whole, fraction)
  else none

/-- The natural number of a run of digits, if it is below `limit`. -/
def digitsBelow? (limit : Nat) (ds : List Char) : Option Nat :=
  (Numeral.extend limit .tooLarge 0 ds).toOption

/-- Base units of an amount with at most `decimals` digits behind its point.  The
faults are looked for in this order: too many places for any amount, no numeral,
a whole part past 128 bits, too many digits behind the point, a total past 64
bits. -/
def toBaseUnits (text : String) (decimals : UInt32) : Except AmountError UInt64 :=
  if maxDecimals < decimals then .error (.unsupportedDecimals decimals)
  else
    let cs := trimmed text.toList
    match numeral? cs with
    | none => .error (.invalidFormat (String.ofList cs))
    | some (whole, fraction) =>
      match digitsBelow? (Nat.pow 2 128) whole with
      | none => .error .overflow
      | some w =>
        if decimals.toNat < fraction.length then .error (.tooManyDecimals decimals)
        else
          let f := (digitsBelow? (Nat.pow 2 128) (Numeral.padRight decimals.toNat fraction)).getD 0
          let total := w * Nat.pow 10 decimals.toNat + f
          if total < Nat.pow 2 64 then .ok (UInt64.ofNat total) else .error .overflow

def withoutTrailingZeros (cs : List Char) : List Char :=
  (cs.reverse.dropWhile (· = '0')).reverse

/-- Base units as people write them, without needless zeros.  Decimal places past
the eighteenth are not counted. -/
def ofBaseUnits (units : UInt64) (decimals : UInt32) : String :=
  let places := min decimals.toNat maxDecimals.toNat
  let whole := units.toNat / Nat.pow 10 places
  let remainder := units.toNat % Nat.pow 10 places
  if remainder = 0 then String.ofList (Numeral.digits whole)
  else
    String.ofList (Numeral.digits whole ++
      '.' :: withoutTrailingZeros (Numeral.padded places remainder))

/-- Base units as the signed number of a transfer. -/
def toSigned (units : UInt64) : Except AmountError Int64 :=
  if units.toNat < Nat.pow 2 63 then .ok units.toInt64 else .error .overflow

end Amount

/-- An amount of the ledger's own currency, in its base unit. -/
structure Tinybars where
  count : UInt64
deriving Repr, Inhabited, DecidableEq

namespace Tinybars

/-- The amount that a display amount such as `2.5` means. -/
def ofDisplay (text : String) : Except AmountError Tinybars :=
  (Amount.toBaseUnits text Amount.hbarDecimals).map Tinybars.mk

/-- The display amount with the currency's sign. -/
def display (amount : Tinybars) : String :=
  Amount.ofBaseUnits amount.count Amount.hbarDecimals ++ " ℏ"

end Tinybars

end LedgerAgent
