/-
Module: LedgerAgent.Url.Punycode
Purpose: Names past ASCII written in ASCII.
Main exports: Url.Punycode.encode, Url.Punycode.decode?
-/
import LedgerAgent.Text.Split

namespace LedgerAgent.Url.Punycode

/-!
A text is written as its ASCII characters, a hyphen behind them if there are any, and then
the others in the order of their numbers: each by how far it stands from the one before,
all places of the text and all numbers between being counted.  A distance is written in
digits of growing weight, and how fast the weight grows follows the distances so far.
-/

def digit (n : Nat) : Char :=
  if n < 26 then Char.ofNat (97 + n) else Char.ofNat (22 + n)

/-- A digit below this ends a distance at a place. -/
def threshold (bias place : Nat) : Nat :=
  if place ≤ bias then 1 else if bias + 26 ≤ place then 26 else place - bias

theorem one_le_threshold (bias place : Nat) : 1 ≤ threshold bias place := by
  unfold threshold
  split
  · omega
  · split <;> omega

/-- A distance gets smaller with every digit of it. -/
theorem div_lt_of_threshold_le {bias place q : Nat} (h : ¬ q < threshold bias place) :
    (q - threshold bias place) / (36 - threshold bias place) < q :=
  Nat.lt_of_le_of_lt (Nat.div_le_self _ _)
    (Nat.sub_lt (by have := one_le_threshold bias place; omega)
      (one_le_threshold bias place))

/-- A distance in digits from a place on. -/
def distance (bias place q : Nat) : List Char :=
  let t := threshold bias place
  if q < t then [digit q]
  else digit (t + (q - t) % (36 - t)) :: distance bias (place + 36) ((q - t) / (36 - t))
termination_by q
decreasing_by exact div_lt_of_threshold_le (by assumption)

/-- Divide until the distance is small, counting the divisions in `bias`. -/
def settle (bias delta : Nat) : Nat :=
  if 455 < delta then settle (bias + 36) (delta / 35) else bias + 36 * delta / (delta + 38)
termination_by delta
decreasing_by exact Nat.div_lt_self (by omega) (by omega)

/-- The bias for the next distance, after `delta` with `count` characters written. -/
def adapt (delta count : Nat) (first : Bool) : Nat :=
  let delta := if first then delta / 700 else delta / 2
  settle 0 (delta + delta / count)

/-- What has been written, and where the writing stands. -/
structure State where
  out : List Char
  delta : Nat
  handled : Nat
  bias : Nat
  first : Bool

/-- Go over a character of the text while those numbered `n` are written. -/
def State.place (n : Nat) (s : State) (c : Char) : State :=
  if c.toNat < n then { s with delta := s.delta + 1 }
  else if c.toNat = n then
    { out := s.out ++ distance s.bias 36 s.delta
      delta := 0
      handled := s.handled + 1
      bias := adapt s.delta (s.handled + 1) s.first
      first := false }
  else s

/-- Write the characters with these numbers, which are in order; those below `n` are
done. -/
def State.run (text : List Char) : List Nat → Nat → State → State
  | [], _, s => s
  | m :: more, n, s =>
    let s := { s with delta := s.delta + (m - n) * (s.handled + 1) }
    let s := text.foldl (State.place m) s
    State.run text more (m + 1) { s with delta := s.delta + 1 }

def isBasic (c : Char) : Bool :=
  c.toNat < 128

/-- A text in ASCII. -/
def encode (text : List Char) : List Char :=
  let basic := text.filter isBasic
  let numbers := ((text.filter (!isBasic ·)).map Char.toNat).mergeSort.eraseDups
  let lead := if basic.isEmpty then [] else basic ++ ['-']
  (State.run text numbers 128 ⟨lead, 0, basic.length, 72, true⟩).out

def digitValue? (c : Char) : Option Nat :=
  let n := c.toNat
  if 97 ≤ n ∧ n ≤ 122 then some (n - 97)
  else if 48 ≤ n ∧ n ≤ 57 then some (n - 22)
  else none

/-- The sum of `sum` and a distance, and the text behind the distance.  Its digits from a
place on weigh `weight` and more; sums and weights stay below two to the 32. -/
def readDistance? (bias : Nat) (place weight sum : Nat) : List Char → Option (Nat × List Char)
  | [] => none
  | c :: rest =>
    match digitValue? c with
    | none => none
    | some d =>
      let t := threshold bias place
      let sum := sum + d * weight
      if Nat.pow 2 32 ≤ sum then none
      else if d < t then some (sum, rest)
      else if Nat.pow 2 32 ≤ weight * (36 - t) then none
      else readDistance? bias (place + 36) (weight * (36 - t)) sum rest

/-- Reading a distance takes text. -/
theorem length_of_readDistance? {bias place weight sum : Nat} {text : List Char}
    {read : Nat × List Char} (h : readDistance? bias place weight sum text = some read) :
    read.2.length < text.length := by
  induction text generalizing place weight sum with
  | nil => simp [readDistance?] at h
  | cons c rest ih =>
    rw [readDistance?] at h
    split at h
    · simp at h
    · dsimp only at h
      split at h
      · simp at h
      · split at h
        · simp only [Option.some.injEq] at h
          simp [← h]
        · split at h
          · simp at h
          · exact Nat.lt_trans (ih h) (by simp)

/-- Read distances and put a character into the text `out` for each: `n` is the number and
`i` the place that the last one leaves off at. -/
def insertFrom (out : List Char) (n i bias : Nat) (text : List Char) : Option (List Char) :=
  match text with
  | [] => some out
  | c :: rest =>
    match _ : readDistance? bias 36 1 i (c :: rest) with
    | none => none
    | some (sum, behind) =>
      let count := out.length + 1
      let number := n + sum / count
      if number < 0xD800 ∨ (0xDFFF < number ∧ number < 0x110000) then
        insertFrom (out.insertIdx (sum % count) (Char.ofNat number)) number (sum % count + 1)
          (adapt (sum - i) count (i == 0)) behind
      else none
termination_by text.length
decreasing_by exact length_of_readDistance? (by assumption)

/-- The text that small letters, digits and hyphens of ASCII write, if they write one.  The
last hyphen ends the text's own ASCII, of which there is some. -/
def decode? (text : List Char) : Option (List Char) :=
  match Text.cutAt '-' text.reverse with
  | none => insertFrom [] 128 0 72 text
  | some (_, []) => none
  | some (behind, before) => insertFrom before.reverse 128 0 72 behind.reverse

end LedgerAgent.Url.Punycode
