/-
Module: LedgerAgent.Url.Path
Purpose: The paths of URLs: dots that lead back, and the letters of drives.
Main exports: Url.Path, Url.followSegments, Url.isDriveLetter, Url.fileSegments,
  Url.withoutBreaks
-/
import LedgerAgent.Text.Split
import LedgerAgent.Url.Encoding

namespace LedgerAgent.Url

/-- The path of a URL: plain text, or segments each with a slash before it. -/
inductive Path where
  | opaqueText (text : List Char)
  | segments (segments : List (List Char))
deriving Repr, Inhabited, DecidableEq

def Path.chars : Path → List Char
  | .opaqueText text => text
  | .segments parts => parts.flatMap ('/' :: ·)

def isSlash (special : Bool) (c : Char) : Bool :=
  c = '/' || (special && c = '\\')

/-- The parts between slashes. -/
def splitSegments (special : Bool) (cs : List Char) : List (List Char) :=
  Text.fields '/' (if special then cs.map fun c => if c = '\\' then '/' else c else cs)

/-- A segment that means the one before it. -/
def isDoubleDot (segment : List Char) : Bool :=
  let s := String.ofList (segment.map Char.toLower)
  [".." , "%2e%2e", "%2e.", ".%2e"].contains s

/-- A segment that means itself. -/
def isSingleDot (segment : List Char) : Bool :=
  let s := String.ofList (segment.map Char.toLower)
  [".", "%2e"].contains s

/-- Whether a text is a drive's letter, with a colon or a bar behind it. -/
def isDriveLetter : List Char → Bool
  | [letter, c] => letter.isAlpha && (c = ':' || c = '|')
  | _ => false

/-- Whether a segment is a drive's letter as far as any slash in it. -/
def beginsWithDrive (segment : List Char) : Bool :=
  isDriveLetter (segment.takeWhile fun c => !isSlash true c)

/-- The segments, held in reverse, without the last one.  A drive is not left, whatever
the scheme. -/
def leaveSegment : List (List Char) → List (List Char)
  | [] => []
  | last :: before => if beginsWithDrive last then last :: before else before

/-- A character that counts for nothing in a URL: a tab or the end of a line. -/
def isBreak (c : Char) : Bool :=
  c = '\t' || c = '\n' || c = '\r'

/-- Text without tabs and line ends. -/
def withoutBreaks (cs : List Char) : List Char :=
  cs.filter (!isBreak ·)

/-- A drive's letter with a colon, and the text behind it in its segment, if a break stands
between the two. -/
def brokenDrive? (segment : List Char) : Option (List Char × List Char) :=
  match Text.cutAt ':' segment with
  | none => none
  | some (before, behind) =>
    let drive := withoutBreaks before ++ [':']
    let text := withoutBreaks behind
    if isDriveLetter drive && behind.head?.any isBreak && !text.isEmpty then some (drive, text)
    else none

/-- A drive at the front of a file's path: its letter with a colon, and any text that a break
parts from it, the last one first. -/
def driveAtFront (segment : List Char) : List (List Char) :=
  match brokenDrive? segment with
  | some (drive, text) => [percentEncode .path text, drive]
  | none =>
    let bare := withoutBreaks segment
    [if isDriveLetter bare then bare.take 1 ++ [':'] else percentEncode .path bare]

/-- A segment, which only in a `file`'s path may hold breaks, put behind those `found` so far,
which are held in reverse. -/
def putBehind (file : Bool) (found : List (List Char)) (segment : List Char) :
    List (List Char) :=
  if file && found.isEmpty then driveAtFront segment
  else percentEncode .path (withoutBreaks segment) :: found

/-- Follow segments, `found` being those so far in reverse.  Dots at the end leave
an empty segment. -/
def followSegments (file : Bool) (found : List (List Char)) :
    List (List Char) → List (List Char)
  | [] => found.reverse
  | segment :: rest =>
    let bare := withoutBreaks segment
    let ending := if rest.isEmpty then [[]] else []
    if isDoubleDot bare then followSegments file (ending ++ leaveSegment found) rest
    else if isSingleDot bare then followSegments file (ending ++ found) rest
    else followSegments file (putBehind file found segment) rest

/-- The segments of a file's path, none of them empty at the front unless it is alone. -/
def fileSegments (segments : List (List Char)) : List (List Char) :=
  match (followSegments true [] segments).dropWhile List.isEmpty with
  | [] => [[]]
  | kept => kept

end LedgerAgent.Url
