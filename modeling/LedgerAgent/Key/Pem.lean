/-
Module: LedgerAgent.Key.Pem
Purpose: The text frame around binary keys.
Main exports: Key.pemContents, Key.PemError
-/
import LedgerAgent.Text.Base64
import LedgerAgent.Text.Blank
import LedgerAgent.Text.Split

namespace LedgerAgent.Key

open Text

/-- Why a text frames no key. -/
inductive PemError where
  | malformedFraming
  | missingBeginTag
  | missingEndTag
  | mismatchedTags (first last : String)
  | invalidData (fault : Base64Error)
  | invalidHeader (line : String)
deriving Repr, Inhabited, DecidableEq

def PemError.message : PemError → String
  | .malformedFraming => "malformedframing"
  | .missingBeginTag => "missing BEGIN tag"
  | .missingEndTag => "missing END tag"
  | .mismatchedTags first last =>
    "mismatching BEGIN (\"" ++ first ++ "\") and END (\"" ++ last ++ "\") tags"
  | .invalidData fault => s!"invalid data: {fault.message}"
  | .invalidHeader line => s!"invalid header: {line}"

structure PemFrame where
  first : List Char
  headers : List Char
  data : List Char
  last : List Char

/-- Text without the white space of a line before it. -/
def skipLineSpace (cs : List Char) : List Char :=
  cs.dropWhile fun c => c = ' ' || c = '\t' || c = '\n' || c = '\r'

/-- The text before a mark and the text behind it, read in one go: `left` is what is
missing of the mark, `passed` what was read, in reverse.  Where a mark breaks off the
reading starts over behind the character that broke it, so a mark that begins within a
broken one is not seen. -/
def readUntil (mark : List Char) (left passed : List Char) :
    List Char → Option (List Char × List Char)
  | [] => none
  | c :: rest =>
    match left with
    | [] => none
    | l :: left =>
      if c = l then
        if left.isEmpty then some ((passed.drop (mark.length - 1)).reverse, rest)
        else readUntil mark left (c :: passed) rest
      else readUntil mark mark (c :: passed) rest

/-- The text before the first mark that is read to its end, and the text behind it. -/
def splitAtMark (mark : String) (text : List Char) : Option (List Char × List Char) :=
  readUntil mark.toList mark.toList [] text

/-- Headers stand before the first empty line, if there is one. -/
def splitHeaders (body : List Char) : List Char × List Char :=
  ((splitAtMark "\n\n" body).or (splitAtMark "\r\n\r\n" body)).getD ([], body)

def pemFrame? (text : List Char) : Option PemFrame := do
  let (_, text) ← splitAtMark "-----BEGIN " text
  let (first, text) ← splitAtMark "-----" text
  let (body, text) ← splitAtMark "-----END " (skipLineSpace text)
  let (last, _) ← splitAtMark "-----" text
  let (headers, data) := splitHeaders body
  return ⟨first, headers, data, last⟩

/-- A line without the carriage return that belongs to its end. -/
def endedLine (line : List Char) : List Char :=
  if line.getLast? = some '\r' then line.dropLast else line

/-- The lines of a text.  The end of the last line opens no further one, and where
that end is missing a carriage return counts as part of the line. -/
def lines (text : List Char) : List (List Char) :=
  let parts := fields '\n' text
  let last := parts.getLast?.getD []
  parts.dropLast.map endedLine ++ (if last.isEmpty then [] else [last])

/-- The text of a frame's data without white space. -/
def PemFrame.symbols (frame : PemFrame) : List Char :=
  frame.data.filter (!isBlank ·)

/-- The bytes that a text frames. -/
def pemContents (text : String) : Except PemError (List UInt8) := do
  match pemFrame? text.toList with
  | none => throw .malformedFraming
  | some frame =>
    if frame.first.isEmpty then throw .missingBeginTag
    if frame.last.isEmpty then throw .missingEndTag
    if frame.first ≠ frame.last then
      throw (.mismatchedTags (String.ofList frame.first) (String.ofList frame.last))
    let contents ←
      (Base64.decode (bytes (String.ofList frame.symbols))).mapError PemError.invalidData
    for line in lines frame.headers do
      if (cutAt ':' line).isNone then throw (.invalidHeader (String.ofList line))
    return contents

end LedgerAgent.Key
