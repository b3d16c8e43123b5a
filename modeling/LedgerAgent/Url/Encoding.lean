/-
Module: LedgerAgent.Url.Encoding
Purpose: Percent-encoding of the parts of a URL, and form encoding of query pairs.
Main exports: Url.EncodeSet, Url.percentEncode, Url.percentDecode, Url.formEncode
-/
import LedgerAgent.Text.Bytes

namespace LedgerAgent.Url

/-- The parts of a URL that differ in which characters are encoded in them. -/
inductive EncodeSet where
  | control
  | fragment
  | query
  | specialQuery
  | path
  | pathSegment
  | specialPathSegment
  | userinfo
deriving Repr, DecidableEq

namespace EncodeSet

/-- The ASCII characters that a part encodes besides control characters. -/
def extra : EncodeSet → List Char
  | .control => []
  | .fragment => [' ', '"', '<', '>', '`']
  | .query => [' ', '"', '#', '<', '>']
  | .specialQuery => [' ', '"', '#', '<', '>', '\'']
  | .path => [' ', '"', '<', '>', '`', '#', '?', '\x7b', '\x7d']
  | .pathSegment => [' ', '"', '<', '>', '`', '#', '?', '\x7b', '\x7d', '/', '%']
  | .specialPathSegment => [' ', '"', '<', '>', '`', '#', '?', '\x7b', '\x7d', '/', '%', '\\']
  | .userinfo =>
    [' ', '"', '<', '>', '`', '#', '?', '\x7b', '\x7d', '/', ':', ';', '=', '@', '[', '\\', ']',
      '^', '|']

/-- Whether a part encodes a character.  All encode control characters and
everything past ASCII. -/
def encodes (set : EncodeSet) (c : Char) : Bool :=
  c.toNat < 32 || 126 < c.toNat || set.extra.contains c

end EncodeSet

def upperHex (n : Nat) : Char :=
  if n < 10 then Char.ofNat (48 + n) else Char.ofNat (55 + n)

def percentByte (b : UInt8) : List Char :=
  ['%', upperHex (b.toNat / 16), upperHex (b.toNat % 16)]

/-- The bytes of a character, each encoded. -/
def percentChar (c : Char) : List Char :=
  (String.utf8EncodeChar c).flatMap percentByte

/-- Text as it stands in a part of a URL. -/
def percentEncode (set : EncodeSet) (cs : List Char) : List Char :=
  cs.flatMap fun c => if set.encodes c then percentChar c else [c]

def hexDigit? (c : Char) : Option Nat :=
  let n := c.toNat
  if 48 ≤ n ∧ n ≤ 57 then some (n - 48)
  else if 97 ≤ n ∧ n ≤ 102 then some (n - 87)
  else if 65 ≤ n ∧ n ≤ 70 then some (n - 55)
  else none

/-- The bytes of text in which encoded bytes stand for themselves. -/
def percentDecode : List Char → List UInt8
  | [] => []
  | '%' :: a :: b :: rest =>
    match hexDigit? a, hexDigit? b with
    | some h, some l => UInt8.ofNat (16 * h + l) :: percentDecode rest
    | _, _ => 37 :: percentDecode (a :: b :: rest)
  | c :: rest => String.utf8EncodeChar c ++ percentDecode rest

/-- Whether a character stands for itself in a form. -/
def isFormSafe (c : Char) : Bool :=
  c.isAlphanum || c = '*' || c = '-' || c = '.' || c = '_'

/-- Text as a name or value of a form. -/
def formEncode (cs : List Char) : List Char :=
  cs.flatMap fun c => if isFormSafe c then [c] else if c = ' ' then ['+'] else percentChar c

end LedgerAgent.Url
