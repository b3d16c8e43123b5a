/-
Module: LedgerAgent.Text.Hex
Purpose: Hexadecimal text of bytes.
Main exports: Text.Hex.encode, Text.Hex.decode, Text.HexError.message
-/
import LedgerAgent.Text.Bytes

namespace LedgerAgent.Text

/-- Why a text is not hexadecimal: its byte count is odd, or it holds a byte
that is no hexadecimal digit. -/
inductive HexError where
  | oddLength
  | invalidDigit (byte : UInt8) (offset : Nat)
deriving Repr, Inhabited, DecidableEq

/-- A byte shown as the character with its number, in single quotes.  Control
characters, the no-break space and the soft hyphen are shown by their number. -/
def quotedByte (b : UInt8) : String :=
  let n := b.toNat
  let shown :=
    if n = 0 then "\\0"
    else if n = 9 then "\\t"
    else if n = 10 then "\\n"
    else if n = 13 then "\\r"
    else if n = 39 then "\\'"
    else if n = 92 then "\\\\"
    else if n < 32 || (127 ≤ n && n ≤ 160) || n = 173 then
      "\\u\x7b" ++ String.ofList (Nat.toDigits 16 n) ++ "\x7d"
    else String.singleton (Char.ofNat n)
  "'" ++ shown ++ "'"

def HexError.message : HexError → String
  | .oddLength => "Odd number of digits"
  | .invalidDigit byte offset =>
    s!"Invalid character {quotedByte byte} at position {offset}"

namespace Hex

def digit (n : Nat) : Char :=
  if n < 10 then Char.ofNat (48 + n) else Char.ofNat (87 + n)

def value? (b : UInt8) : Option Nat :=
  let n := b.toNat
  if 48 ≤ n ∧ n ≤ 57 then some (n - 48)
  else if 97 ≤ n ∧ n ≤ 102 then some (n - 87)
  else if 65 ≤ n ∧ n ≤ 70 then some (n - 55)
  else none

/-- Two digits a byte. -/
def encodeChars (bs : List UInt8) : List Char :=
  bs.flatMap fun b => [digit (b.toNat / 16), digit (b.toNat % 16)]

def encode (bs : List UInt8) : String :=
  String.ofList (encodeChars bs)

/-- Bytes of a run of digit pairs whose first digit stands at `offset`. -/
def decodePairs (offset : Nat) : List UInt8 → Except HexError (List UInt8)
  | [] => .ok []
  | [_] => .error .oddLength
  | high :: low :: rest =>
    match value? high, value? low with
    | none, _ => .error (.invalidDigit high offset)
    | _, none => .error (.invalidDigit low (offset + 1))
    | some h, some l =>
      (decodePairs (offset + 2) rest).map (UInt8.ofNat (16 * h + l) :: ·)

/-- Bytes of a hexadecimal text.  The parity of the length is judged first and
counts bytes, not characters. -/
def decode (s : String) : Except HexError (List UInt8) :=
  let digits := bytes s
  if digits.length % 2 = 1 then .error .oddLength else decodePairs 0 digits

end Hex

end LedgerAgent.Text
