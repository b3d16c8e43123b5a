/-
Module: LedgerAgent.Url.Domain
Purpose: Domain names in any script, and the ASCII in which they are looked up.
Main exports: Url.asciiDomain?
-/
import LedgerAgent.Text.Composition
import LedgerAgent.Text.Direction
import LedgerAgent.Text.Joining
import LedgerAgent.Url.DomainTable
import LedgerAgent.Url.Punycode

namespace LedgerAgent.Url

open Text (fields dropLead)

/-!
A name is first brought to the form that all its spellings share: each character is
replaced by what stands for it in names, and the whole is composed.  Its labels are then
looked at one by one.  A label past ASCII is written behind a mark, and one that already
comes with the mark must be what writing its own text gives.
-/

/-- What marks a label that is written in ASCII but is not. -/
def labelMark : List Char := "xn--".toList

/-- The longest text that is written in ASCII. -/
def maxWritten : Nat := 1000

/-- The longest text behind the mark that is read. -/
def maxRead : Nat := 2000

/-- Each character replaced by what stands for it; none if there is no such name. -/
def replaceEach? : List Char → Option (List Char)
  | [] => some []
  | c :: rest =>
    match domainUse c with
    | .kept => (replaceEach? rest).map (c :: ·)
    | .replaced codes => (replaceEach? rest).map (codes.map Char.ofNat ++ ·)
    | .disallowed => none

/-- The form that all spellings of a name share. -/
def sharedForm? (name : List Char) : Option (List Char) :=
  (replaceEach? name).map Text.composed

/-- A label: what it says, and how that is written in ASCII. -/
structure Label where
  text : List Char
  written : List Char
deriving Repr, Inhabited, DecidableEq

/-- Whether a label past ASCII can be told from all others: it does not begin with a mark
on the character before it, and its joiners can be seen. -/
def isDistinct (text : List Char) : Bool :=
  !text.head?.any Text.isMark && Text.joinersMatter [] text && text.length ≤ maxWritten

/-- The label that a text behind the mark writes. -/
def Label.ofMarked? (written : List Char) : Option Label := do
  if maxRead < written.length || written.getLast? = some '-' || !written.all Punycode.isBasic then
    none
  let text ← Punycode.decode? written
  if sharedForm? text = some text ∧ text.all Punycode.isBasic = false ∧ isDistinct text = true then
    some ⟨text, labelMark ++ written⟩
  else none

/-- The label of a part of a name in its shared form, in which no capital is left. -/
def Label.ofText? (text : List Char) : Option Label :=
  if text.any Char.isUpper then none
  else
    match dropLead labelMark text with
    | some written => Label.ofMarked? written
    | none =>
      if text.all Punycode.isBasic then some ⟨text, text⟩
      else if isDistinct text then some ⟨text, labelMark ++ Punycode.encode text⟩
      else none

/-- A name in any script written in ASCII.  If a part of it runs from right to left, each
part must read the same way wherever it stands. -/
def writtenDomain? (name : List Char) : Option (List Char) := do
  let shared ← sharedForm? name
  let labels ← (fields '.' shared).mapM Label.ofText?
  let mixed := labels.any fun l => l.text.any Text.isRightward
  if mixed && !labels.all fun l => Text.readsOneWay l.text then none
  return ['.'].intercalate (labels.map Label.written)

/-- Whether a name is plain: ASCII without marked labels. -/
def isPlain (name : List Char) : Bool :=
  name.all Punycode.isBasic &&
    (fields '.' (name.map Char.toLower)).all fun label => (dropLead labelMark label).isNone

/-- A name in lower-case ASCII, if it is one.  A plain name is its own text. -/
def asciiDomain? (name : List Char) : Option (List Char) :=
  if isPlain name then some (name.map Char.toLower) else writtenDomain? name

end LedgerAgent.Url
