/-
Module: LedgerAgent.Text.Base64
Purpose: Base64 with the standard alphabet and padding.
Main exports: Text.Base64.encode, Text.Base64.decode, Text.Base64Error.message
-/
import LedgerAgent.Text.Bytes

namespace LedgerAgent.Text

inductive Base64Error where
  | invalidSymbol (byte : UInt8) (offset : Nat)
  | invalidLength (length : Nat)
  | invalidLastSymbol (byte : UInt8) (offset : Nat)
  | invalidPadding
deriving Repr, Inhabited, DecidableEq

def Base64Error.message : Base64Error → String
  | .invalidSymbol byte offset => s!"Invalid symbol {byte.toNat}, offset {offset}."
  | .invalidLength length => s!"Invalid input length: {length}"
  | .invalidLastSymbol byte offset =>
    s!"Invalid last symbol {byte.toNat}, offset {offset}."
  | .invalidPadding => "Invalid padding"

namespace Base64

def symbol (n : Nat) : Char :=
  if n < 26 then Char.ofNat (65 + n)
  else if n < 52 then Char.ofNat (71 + n)
  else if n < 62 then Char.ofNat (n - 4)
  else if n = 62 then '+'
  else '/'

def value? (b : UInt8) : Option Nat :=
  let n := b.toNat
  if 65 ≤ n ∧ n ≤ 90 then some (n - 65)
  else if 97 ≤ n ∧ n ≤ 122 then some (n - 71)
  else if 48 ≤ n ∧ n ≤ 57 then some (n + 4)
  else if n = 43 then some 62
  else if n = 47 then some 63
  else none

/-- Three bytes are four symbols; one or two last bytes are filled up with `=`. -/
def encodeChars : List UInt8 → List Char
  | [] => []
  | [a] =>
    let n := a.toNat * 65536
    [symbol (n / 262144), symbol (n / 4096 % 64), '=', '=']
  | [a, b] =>
    let n := a.toNat * 65536 + b.toNat * 256
    [symbol (n / 262144), symbol (n / 4096 % 64), symbol (n / 64 % 64), '=']
  | a :: b :: c :: rest =>
    let n := a.toNat * 65536 + b.toNat * 256 + c.toNat
    symbol (n / 262144) :: symbol (n / 4096 % 64) :: symbol (n / 64 % 64) ::
      symbol (n % 64) :: encodeChars rest

def encode (bs : List UInt8) : String :=
  String.ofList (encodeChars bs)

/-- The values of symbols, or the first byte that is none. -/
def values (offset : Nat) : List UInt8 → Except Base64Error (List Nat)
  | [] => .ok []
  | b :: rest =>
    match value? b with
    | none => .error (.invalidSymbol b offset)
    | some v => (values (offset + 1) rest).map (v :: ·)

/-- The whole bytes in a run of values; the bits left over are dropped. -/
def pack : List Nat → List UInt8
  | a :: b :: c :: d :: rest =>
    let n := a * 262144 + b * 4096 + c * 64 + d
    UInt8.ofNat (n / 65536) :: UInt8.ofNat (n / 256 % 256) :: UInt8.ofNat (n % 256) ::
      pack rest
  | [a, b, c] => [UInt8.ofNat (a * 4 + b / 16), UInt8.ofNat (b % 16 * 16 + c / 4)]
  | [a, b] => [UInt8.ofNat (a * 4 + b / 16)]
  | _ => []

/-- The bits that the values of a last group leave over. -/
def leftover : List Nat → Nat
  | [_, b] => b % 16
  | [_, _, c] => c % 4
  | _ => 0

/-- A last group of at most four symbols, read from left to right: the values
before its padding and the number of padding symbols.  Padding starts at the
third symbol at the earliest, and nothing but padding follows it. -/
def lastGroup (start : Nat) (index : Nat) (found : List Nat) (padding : Nat) :
    List UInt8 → Except Base64Error (List Nat × Nat)
  | [] => .ok (found, padding)
  | b :: rest =>
    if b = 61 then
      if index < 2 then .error (.invalidSymbol b (start + index))
      else lastGroup start (index + 1) found (padding + 1) rest
    else if padding > 0 then .error (.invalidSymbol 61 (start + index - padding))
    else
      match value? b with
      | none => .error (.invalidSymbol b (start + index))
      | some v => lastGroup start (index + 1) (found ++ [v]) padding rest

/-- Bytes of a padded base64 text.  The padding must complete the last group of
four, and the bits it leaves over must be zero.  A single symbol behind the last
full group is judged before everything else. -/
def decode (text : List UInt8) : Except Base64Error (List UInt8) :=
  let rest := text.length % 4
  let start := text.length - (if rest = 0 then 4 else rest)
  let last := text.getLast?.getD 61
  if rest = 1 ∧ last ≠ 61 ∧ value? last = none then
    .error (.invalidSymbol last (text.length - 1))
  else do
    let body ← values 0 (text.take start)
    let (group, padding) ← lastGroup start 0 [] 0 (text.drop start)
    if text = [] then return []
    if group.length < 2 then throw (.invalidLength (start + group.length))
    if (padding + group.length) % 4 ≠ 0 then throw .invalidPadding
    if leftover group ≠ 0 then
      let index := start + group.length - 1
      throw (.invalidLastSymbol (text[index]?.getD 61) index)
    return pack body ++ pack group

end Base64

end LedgerAgent.Text
