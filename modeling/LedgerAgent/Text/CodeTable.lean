/-
Module: LedgerAgent.Text.CodeTable
Purpose: Tables over code points, written as text and searched by halving.
Main exports: Text.CodeRun, Text.CodeTable, Text.CodeTable.read, Text.CodeTable.runAt?
-/
import LedgerAgent.Text.Split

namespace LedgerAgent.Text

/-- A run of code points and what a table says of them: the first, the last, and the
step between those that are meant. -/
structure CodeRun (α : Type) where
  first : Nat
  last : Nat
  step : Nat
  value : α
deriving Repr, Inhabited

/-- What a table says of code points, as runs in ascending order none of which reaches
into another. -/
abbrev CodeTable (α : Type) := Array (CodeRun α)

namespace CodeTable

/-!
A table is written in entries with white space between them, all numbers hexadecimal:
`41-5a:61` for a run of all code points, `100-12e/2:101` for every second one, `ad:` for
a single one, what is said of them standing behind the colon.
-/

/-- The number that hexadecimal digits spell, their letters being small. -/
def number (digits : List Char) : Nat :=
  digits.foldl (fun n c => n * 16 + (if c.toNat < 97 then c.toNat - 48 else c.toNat - 87)) 0

/-- The numbers between points; no text is no number. -/
def numbers (cs : List Char) : List Nat :=
  if cs.isEmpty then [] else (fields '.' cs).map number

/-- The run of an entry, its value given by `value`. -/
def entry {α : Type} (value : List Char → α) (cs : List Char) : CodeRun α :=
  let (codes, note) := (cutAt ':' cs).getD (cs, [])
  let (range, step) := (cutAt '/' codes).getD (codes, ['1'])
  let (first, last) := (cutAt '-' range).getD (range, range)
  ⟨number first, number last, number step, value note⟩

def read {α : Type} (value : List Char → α) (text : String) : CodeTable α :=
  let add (state : CodeTable α × List Char) (c : Char) : CodeTable α × List Char :=
    if c = ' ' || c = '\n' then
      if state.2.isEmpty then state else (state.1.push (entry value state.2.reverse), [])
    else (state.1, c :: state.2)
  (text.toList.foldl add (#[], []) |> fun state => add state ' ').1

/-- The run around a code point among the runs from the place `low` to before the place
`high`. -/
def findBetween {α : Type} (table : CodeTable α) (n low high : Nat) : Option (CodeRun α) :=
  if low < high then
    let middle := low + (high - low) / 2
    match table[middle]? with
    | none => none
    | some run =>
      if n < run.first then findBetween table n low middle
      else if run.last < n then findBetween table n (middle + 1) high
      else some run
  else none
termination_by high - low

/-- The run that a code point belongs to. -/
def runAt? {α : Type} (table : CodeTable α) (n : Nat) : Option (CodeRun α) :=
  (findBetween table n 0 table.size).filter fun run => (n - run.first) % run.step = 0

def get? {α : Type} (table : CodeTable α) (c : Char) : Option α :=
  (runAt? table c.toNat).map CodeRun.value

end CodeTable

end LedgerAgent.Text
