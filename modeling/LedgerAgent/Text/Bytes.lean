/-
Module: LedgerAgent.Text.Bytes
Purpose: Text as its UTF-8 bytes, and which bytes are text.
Main exports: Text.bytes, Text.ofBytes?, Text.utf8Fault?, Text.lossy
-/

namespace LedgerAgent.Text

def bytes (s : String) : List UInt8 :=
  s.toUTF8.data.toList

/-- The text that the bytes encode, if they are UTF-8. -/
def ofBytes? (bs : List UInt8) : Option String :=
  String.fromUTF8? ⟨bs.toArray⟩

/-- A text is read from its own bytes again. -/
theorem ofBytes?_bytes (s : String) : ofBytes? (bytes s) = some s := by
  simp only [ofBytes?, bytes, String.fromUTF8?, String.toUTF8_eq_toByteArray,
    Array.toArray_toList, dif_pos s.isValidUTF8]
  rfl

/-- Where bytes stop being UTF-8: the offset of the first sequence that is
wrong, and its length if it is wrong whatever follows. -/
structure Utf8Fault where
  validUpTo : Nat
  length : Option Nat
deriving Repr, Inhabited, DecidableEq

def Utf8Fault.message (fault : Utf8Fault) : String :=
  match fault.length with
  | some n =>
    s!"invalid utf-8 sequence of {n} bytes from index {fault.validUpTo}"
  | none => s!"incomplete utf-8 byte sequence from index {fault.validUpTo}"

/-- What a byte sequence begins with: a character of some bytes, a wrong
sequence of some bytes, or the start of a character that the bytes cut off. -/
inductive Utf8Step where
  | character (length : Nat)
  | wrong (length : Nat)
  | incomplete
deriving Repr, DecidableEq

private def isTail (b : UInt8) : Bool :=
  0x80 ≤ b && b ≤ 0xBF

/-- The second byte that may follow a lead byte: surrogates, overlong forms and
values past U+10FFFF are excluded here. -/
private def isSecond (lead b : UInt8) : Bool :=
  if lead == 0xE0 then 0xA0 ≤ b && b ≤ 0xBF
  else if lead == 0xED then 0x80 ≤ b && b ≤ 0x9F
  else if lead == 0xF0 then 0x90 ≤ b && b ≤ 0xBF
  else if lead == 0xF4 then 0x80 ≤ b && b ≤ 0x8F
  else isTail b

/-- The number of bytes that a lead byte announces, if it is a lead byte. -/
private def announced (lead : UInt8) : Option Nat :=
  if lead < 0x80 then some 1
  else if 0xC2 ≤ lead && lead ≤ 0xDF then some 2
  else if 0xE0 ≤ lead && lead ≤ 0xEF then some 3
  else if 0xF0 ≤ lead && lead ≤ 0xF4 then some 4
  else none

/-- The first step through a non-empty byte sequence. -/
def utf8Step (lead : UInt8) (rest : List UInt8) : Utf8Step :=
  match announced lead with
  | none => .wrong 1
  | some 1 => .character 1
  | some n =>
    match rest with
    | [] => .incomplete
    | second :: others =>
      if !isSecond lead second then .wrong 1
      else if n == 2 then .character 2
      else
        match others with
        | [] => .incomplete
        | third :: others =>
          if !isTail third then .wrong 2
          else if n == 3 then .character 3
          else
            match others with
            | [] => .incomplete
            | fourth :: _ => if isTail fourth then .character 4 else .wrong 3

/-- The first place where bytes are not UTF-8. -/
def utf8Fault? (bs : List UInt8) : Option Utf8Fault :=
  go bs.length 0 bs
where
  /-- Scan from offset `at`, one character a step. -/
  go : Nat → Nat → List UInt8 → Option Utf8Fault
    | 0, _, _ => none
    | _, _, [] => none
    | fuel + 1, offset, lead :: rest =>
      match utf8Step lead rest with
      | .character n => go fuel (offset + n) (rest.drop (n - 1))
      | .wrong n => some ⟨offset, some n⟩
      | .incomplete => some ⟨offset, none⟩

/-- The characters of bytes, at most as many as the first argument says; U+FFFD
stands for each sequence that is no character. -/
def lossyChars : Nat → List UInt8 → List Char
  | 0, _ => []
  | _, [] => []
  | fuel + 1, lead :: rest =>
    match utf8Step lead rest with
    | .character n =>
      ((ofBytes? (lead :: rest.take (n - 1))).map String.toList).getD [] ++
        lossyChars fuel (rest.drop (n - 1))
    | .wrong n => '\uFFFD' :: lossyChars fuel (rest.drop (n - 1))
    | .incomplete => ['\uFFFD']

/-- Bytes as text, whether or not they are UTF-8. -/
def lossy (bs : List UInt8) : String :=
  match ofBytes? bs with
  | some s => s
  | none => String.ofList (lossyChars bs.length bs)

/-- Nothing is lost where bytes are text. -/
theorem lossy_bytes (s : String) : lossy (bytes s) = s := by
  rw [lossy, ofBytes?_bytes]

example : lossy [0x61, 0xE2, 0x82, 0x62, 0xF0, 0x9F] = "a\uFFFDb\uFFFD" := by decide +kernel

end LedgerAgent.Text
