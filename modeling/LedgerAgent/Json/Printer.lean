/-
Module: LedgerAgent.Json.Printer
Purpose: JSON values as text, on one line or indented.
Main exports: Json.render, Json.pretty, Json.Number.render, Json.stringChars
-/
import LedgerAgent.Json.Basic

namespace LedgerAgent.Json

/-- Four hexadecimal digits of a code point below 65536, in lower case. -/
def hex4 (n : Nat) : List Char :=
  let ds := Nat.toDigits 16 n
  List.replicate (4 - ds.length) '0' ++ ds

/-- A character inside a string.  Quotes, backslashes and control characters are
escaped, by a letter where there is one; everything else stands for itself. -/
def escapeChar (c : Char) : List Char :=
  if c = '"' then ['\\', '"']
  else if c = '\\' then ['\\', '\\']
  else if c.toNat < 32 then
    if c.toNat = 8 then ['\\', 'b']
    else if c.toNat = 9 then ['\\', 't']
    else if c.toNat = 10 then ['\\', 'n']
    else if c.toNat = 12 then ['\\', 'f']
    else if c.toNat = 13 then ['\\', 'r']
    else '\\' :: 'u' :: hex4 c.toNat
  else [c]

/-- A string with its quotes. -/
def stringChars (s : String) : List Char :=
  '"' :: s.toList.flatMap escapeChar ++ ['"']

/-- A floating-point number.  It is written with the fewest digits that read
back, positionally from 0.00001 up to 16 digits before the point and with an
exponent otherwise, and always so that it does not look like an integer. -/
def realChars (x : Decimal.Binary64) : List Char :=
  let d := Decimal.shortest x
  let point := ((Nat.toDigits 10 d.digits).length : Int) + d.exponent
  let unsigned :=
    if d.digits = 0 then ['0', '.', '0']
    else if -5 < point ∧ point ≤ 16 then
      if 0 ≤ d.exponent then Decimal.positional d ++ ['.', '0'] else Decimal.positional d
    else Decimal.withExponent d
  if x.negative then '-' :: unsigned else unsigned

namespace Number

def chars : Number → List Char
  | .natural n => Nat.toDigits 10 n.toNat
  | .negative n => '-' :: Nat.toDigits 10 n.toInt.natAbs
  | .real x => realChars x

def render (n : Number) : String :=
  String.ofList n.chars

/-- The text of a number in which all digits stand before or behind a point, and
no fraction is written when there is none. -/
def plain : Number → String
  | .real x =>
    let body := Decimal.positional (Decimal.shortest x)
    String.ofList (if x.negative then '-' :: body else body)
  | n => n.render

end Number

mutual

def chars : Json → List Char
  | .null => ['n', 'u', 'l', 'l']
  | .bool true => ['t', 'r', 'u', 'e']
  | .bool false => ['f', 'a', 'l', 's', 'e']
  | .number n => n.chars
  | .string s => stringChars s
  | .array items => '[' :: itemsChars items ++ [']']
  | .object members => '\x7b' :: membersChars members ++ ['\x7d']

def itemsChars : List Json → List Char
  | [] => []
  | [item] => item.chars
  | item :: next :: rest => item.chars ++ ',' :: itemsChars (next :: rest)

def membersChars : List (String × Json) → List Char
  | [] => []
  | [(key, value)] => stringChars key ++ ':' :: value.chars
  | (key, value) :: next :: rest =>
    stringChars key ++ ':' :: value.chars ++ ',' :: membersChars (next :: rest)

end

/-- The text of a value on one line. -/
def render (value : Json) : String :=
  String.ofList value.chars

/-- A new line indented by two spaces a level. -/
def lineBreak (level : Nat) : List Char :=
  '\n' :: List.replicate (2 * level) ' '

mutual

/-- A value whose items and members each stand on a line of their own. -/
def prettyChars (level : Nat) : Json → List Char
  | .array [] => ['[', ']']
  | .array items =>
    '[' :: prettyItems (level + 1) items ++ lineBreak level ++ [']']
  | .object [] => ['\x7b', '\x7d']
  | .object members =>
    '\x7b' :: prettyMembers (level + 1) members ++ lineBreak level ++ ['\x7d']
  | .null => chars .null
  | .bool b => chars (.bool b)
  | .number n => n.chars
  | .string s => stringChars s

def prettyItems (level : Nat) : List Json → List Char
  | [] => []
  | [item] => lineBreak level ++ prettyChars level item
  | item :: next :: rest =>
    lineBreak level ++ prettyChars level item ++ ',' :: prettyItems level (next :: rest)

def prettyMembers (level : Nat) : List (String × Json) → List Char
  | [] => []
  | [(key, value)] =>
    lineBreak level ++ stringChars key ++ ':' :: ' ' :: prettyChars level value
  | (key, value) :: next :: rest =>
    lineBreak level ++ stringChars key ++ ':' :: ' ' :: prettyChars level value ++
      ',' :: prettyMembers level (next :: rest)

end

/-- The text of a value on indented lines. -/
def pretty (value : Json) : String :=
  String.ofList (prettyChars 0 value)

end LedgerAgent.Json
