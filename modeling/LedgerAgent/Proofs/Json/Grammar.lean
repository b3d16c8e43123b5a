/-
Module: LedgerAgent.Proofs.Json.Grammar
Purpose: JSON text as its grammar has it, with any nesting, any white space and any spelling of
  strings, and that a grammatical text is read as what stands in it.
Main exports: Json.Literal, Json.Spelling, Json.Source, Json.ElementText, Json.Source.reading,
  Json.readNumber_literal, Json.readString_spelling, Json.read_element
-/
import LedgerAgent.Proofs.Amount
import LedgerAgent.Proofs.Json.RoundTrip

namespace LedgerAgent.Json

open Nat (ofDigitChars)
open Text.Numeral

/-! ### The grammar -/

/-- Decimal digits, one at least. -/
structure Run where
  chars : List Char
  nonempty : chars ≠ []
  digital : ∀ c ∈ chars, isDigit c = true

/-- The number of a run. -/
def Run.value (r : Run) : Nat :=
  ofDigitChars 10 r.chars 0

/-- The exponent of a number: a letter, perhaps a sign, which may be a minus, and digits. -/
structure Exponent where
  capital : Bool
  sign : Option Bool
  run : Run

namespace Exponent

def chars (x : Exponent) : List Char :=
  (if x.capital then 'E' else 'e') ::
    ((match x.sign with
      | none => []
      | some false => ['+']
      | some true => ['-']) ++ x.run.chars)

def value (x : Exponent) : Int :=
  if x.sign = some true then -(x.run.value : Int) else x.run.value

end Exponent

/-- A number as it is written.  No zero stands before other digits of its whole part. -/
structure Literal where
  negative : Bool
  whole : Run
  noZero : ∀ rest, whole.chars = '0' :: rest → rest = []
  fraction : Option Run
  exponent : Option Exponent

namespace Literal

/-- The text behind the digits of the whole part. -/
def tail (l : Literal) : List Char :=
  (l.fraction.elim [] fun f => '.' :: f.chars) ++ l.exponent.elim [] Exponent.chars

def chars (l : Literal) : List Char :=
  (if l.negative then ['-'] else []) ++ (l.whole.chars ++ l.tail)

/-- The exact number that is written, its sign set aside. -/
def magnitude (l : Literal) : ℚ :=
  Amount.decimal l.whole.chars (l.fraction.elim [] Run.chars) *
    10 ^ l.exponent.elim 0 Exponent.value

/-- The exact number that is written. -/
def value (l : Literal) : ℚ :=
  (if l.negative then -1 else 1) * l.magnitude

/-- The parts that a literal is read as. -/
def parts (l : Literal) : NumberParts :=
  ⟨l.negative, l.whole.chars, l.fraction.map Run.chars, l.exponent.map Exponent.value⟩

/-- What a literal is read as: a number of the class it goes to, if there is one. -/
def reading (l : Literal) : Reading :=
  match l.parts.toNumber? with
  | some n => .number n
  | none => .spoilt .numberOutOfRange .null

end Literal

/-- The number of four hexadecimal digits. -/
def Hex4 (a b c d : Char) (n : Nat) : Prop :=
  ∃ w x y z, hexValue? a = some w ∧ hexValue? b = some x ∧ hexValue? c = some y ∧
    hexValue? d = some z ∧ n = 4096 * w + 256 * x + 16 * y + z

/-- Text between quotes spells characters: each stands for itself, or is escaped by a letter,
by its code point or by the two surrogates of its code point. -/
inductive Spelling : List Char → List Char → Prop where
  | nil : Spelling [] []
  | plain {c : Char} {cs s : List Char} (visible : 32 ≤ c.toNat) (noQuote : c ≠ '"')
      (noBackslash : c ≠ '\\') (others : Spelling cs s) : Spelling (c :: cs) (c :: s)
  | letter {a c : Char} {cs s : List Char} (named : escaped? a = some c) (others : Spelling cs s) :
      Spelling ('\\' :: a :: cs) (c :: s)
  | code {a b c d : Char} {n : Nat} {cs s : List Char} (hex : Hex4 a b c d n)
      (scalar : n < 0xD800 ∨ 0xDFFF < n) (others : Spelling cs s) :
      Spelling ('\\' :: 'u' :: a :: b :: c :: d :: cs) (Char.ofNat n :: s)
  | pair {a b c d a' b' c' d' : Char} {n n' : Nat} {cs s : List Char} (hex : Hex4 a b c d n)
      (hex' : Hex4 a' b' c' d' n') (leading : 0xD800 ≤ n ∧ n ≤ 0xDBFF)
      (trailing : 0xDC00 ≤ n' ∧ n' ≤ 0xDFFF) (others : Spelling cs s) :
      Spelling ('\\' :: 'u' :: a :: b :: c :: d :: '\\' :: 'u' :: a' :: b' :: c' :: d' :: cs)
        (Char.ofNat ((n - 0xD800) * 1024 + (n' - 0xDC00) + 0x10000) :: s)

/-- A value with its numbers as they are written, and its members in the order of the text. -/
inductive Source where
  | null
  | bool (b : Bool)
  | number (l : Literal)
  | string (s : String)
  | array (items : List Source)
  | object (members : List (String × Source))

/-- White space, or nothing. -/
def Blank (cs : List Char) : Prop :=
  ∀ c ∈ cs, isSpace c = true

mutual

/-- A value's own text. -/
inductive ValueText : List Char → Source → Prop where
  | null : ValueText ['n', 'u', 'l', 'l'] .null
  | «true» : ValueText ['t', 'r', 'u', 'e'] (.bool true)
  | «false» : ValueText ['f', 'a', 'l', 's', 'e'] (.bool false)
  | number (l : Literal) : ValueText l.chars (.number l)
  | string {cs : List Char} {s : String} (spelled : Spelling cs s.toList) :
      ValueText ('"' :: cs ++ ['"']) (.string s)
  | emptyArray {gap : List Char} (blank : Blank gap) : ValueText ('[' :: gap ++ [']']) (.array [])
  | array {cs : List Char} {items : List Source} (written : ItemsText cs items) :
      ValueText ('[' :: cs ++ [']']) (.array items)
  | emptyObject {gap : List Char} (blank : Blank gap) :
      ValueText ('\x7b' :: gap ++ ['\x7d']) (.object [])
  | object {cs : List Char} {members : List (String × Source)} (written : MembersText cs members) :
      ValueText ('\x7b' :: cs ++ ['\x7d']) (.object members)

/-- A value with white space around it. -/
inductive ElementText : List Char → Source → Prop where
  | mk {before cs after : List Char} {v : Source} (blank : Blank before) (written : ValueText cs v)
      (blank' : Blank after) : ElementText (before ++ cs ++ after) v

/-- Items between commas. -/
inductive ItemsText : List Char → List Source → Prop where
  | last {cs : List Char} {v : Source} (item : ElementText cs v) : ItemsText cs [v]
  | more {cs ds : List Char} {v : Source} {items : List Source} (item : ElementText cs v)
      (others : ItemsText ds items) : ItemsText (cs ++ ',' :: ds) (v :: items)

/-- Members between commas. -/
inductive MembersText : List Char → List (String × Source) → Prop where
  | last {before cs after ds : List Char} {key : String} {v : Source} (blank : Blank before)
      (spelled : Spelling cs key.toList) (blank' : Blank after) (value : ElementText ds v) :
      MembersText (before ++ '"' :: cs ++ '"' :: after ++ ':' :: ds) [(key, v)]
  | more {before cs after ds es : List Char} {key : String} {v : Source}
      {members : List (String × Source)} (blank : Blank before) (spelled : Spelling cs key.toList)
      (blank' : Blank after) (value : ElementText ds v) (others : MembersText es members) :
      MembersText (before ++ '"' :: cs ++ '"' :: after ++ ':' :: ds ++ ',' :: es)
        ((key, v) :: members)

end

/-! ### What is read -/

mutual

/-- What a value is read as with a number of containers around it. -/
def Source.reading : Nat → Source → Reading
  | _, .null => .null
  | _, .bool b => .bool b
  | _, .number l => l.reading
  | _, .string s => .string s
  | depth, .array items => atDepth depth (.array (readingsOfItems (depth + 1) items) none)
  | depth, .object members => atDepth depth (.object (readingsOfMembers (depth + 1) members) none)

def readingsOfItems : Nat → List Source → List Reading
  | _, [] => []
  | depth, v :: items => v.reading depth :: readingsOfItems depth items

def readingsOfMembers : Nat → List (String × Source) → List (String × Reading)
  | _, [] => []
  | depth, (key, v) :: members => (key, v.reading depth) :: readingsOfMembers depth members

end

/-! ### White space -/

/-- White space is skipped, however much of it there is. -/
theorem skipSpace_symbols {gap : List Char} (blank : Blank gap) (rest : List Symbol) :
    skipSpace (symbols gap ++ rest) = skipSpace rest := by
  induction gap with
  | nil => rfl
  | cons c gap inductionHypothesis =>
      have ⟨space, others⟩ := List.forall_mem_cons.1 blank
      rw [symbols_cons, List.cons_append, skipSpace,
        List.dropWhile_cons_of_pos (by simpa using space)]
      exact inductionHypothesis others

theorem skipSpace_skipSpace (cs : List Symbol) : skipSpace (skipSpace cs) = skipSpace cs := by
  rw [skipSpace, skipSpace, List.dropWhile_idempotent]

/-- A value is read past the white space before it. -/
theorem readValue_skipSpace (depth fuel : Nat) (cs : List Symbol) :
    readValue depth fuel (skipSpace cs) = readValue depth fuel cs := by
  cases fuel with
  | zero => rw [readValue, readValue]
  | succ fuel => rw [readValue, readValue, skipSpace_skipSpace]

/-- An item is read behind the white space before it. -/
theorem readItem_skipSpace (depth fuel : Nat) (cs : List Symbol) :
    readItem depth fuel (skipSpace cs) = readItem depth fuel cs := by
  cases fuel with
  | zero => rw [readItem, readItem]
  | succ fuel => rw [readItem, readItem, readValue_skipSpace]

/-! ### Numbers -/

/-- What may stand behind a number: nothing that could go on it. -/
def Closes (rest : List Symbol) : Prop :=
  ∀ c more, rest = some c :: more → isDigit c = false ∧ c ≠ '.' ∧ c ≠ 'e' ∧ c ≠ 'E'

theorem spanDigits_nil {rest : List Symbol}
    (stop : ∀ c more, rest = some c :: more → isDigit c = false) :
    spanDigits rest = ([], rest) := by
  match rest with
  | [] => rfl
  | none :: more => rfl
  | some c :: more =>
      have none_here : ¬ Option.any isDigit (some c) = true := by
        simpa using stop c more rfl
      rw [spanDigits, List.takeWhile_cons_of_neg none_here, List.dropWhile_cons_of_neg none_here]
      rfl

theorem spanDigits_append {ds : List Char} {rest : List Symbol}
    (digital : ∀ c ∈ ds, isDigit c = true)
    (stop : ∀ c more, rest = some c :: more → isDigit c = false) :
    spanDigits (symbols ds ++ rest) = (ds, rest) := by
  induction ds with
  | nil => exact spanDigits_nil stop
  | cons d ds inductionHypothesis =>
      have ⟨first, others⟩ := List.forall_mem_cons.1 digital
      have tail := inductionHypothesis others
      have first : Option.any isDigit (some d) = true := first
      simp only [spanDigits, Prod.mk.injEq] at tail ⊢
      rw [symbols_cons, List.cons_append, List.takeWhile_cons_of_pos first,
        List.dropWhile_cons_of_pos first]
      exact ⟨congrArg (d :: ·) tail.1, tail.2⟩

theorem digitsValue_eq (ds : List Char) : digitsValue ds = ofDigitChars 10 ds 0 := by
  rw [Nat.ofDigitChars_eq_foldl, digitsValue]
  congr
  funext value c
  rw [Nat.mul_comm]
  rfl

/-- A run goes to its last digit, and it is not empty. -/
theorem spanDigits_run (r : Run) {rest : List Symbol}
    (stop : ∀ c more, rest = some c :: more → isDigit c = false) :
    ∃ d ds, r.chars = d :: ds ∧ isDigit d = true ∧
      spanDigits (symbols r.chars ++ rest) = (d :: ds, rest) := by
  obtain ⟨d, ds, split⟩ := List.exists_cons_of_ne_nil r.nonempty
  refine ⟨d, ds, split, r.digital d (split ▸ List.mem_cons_self), ?_⟩
  rw [spanDigits_append r.digital stop, split]

/-- An exponent is read from its spelling, if nothing follows that could belong to it. -/
theorem readExponent_exponent (x : Exponent) {rest : List Symbol} (closes : Closes rest) :
    readExponent? (symbols x.chars ++ rest) = .ok (some x.value, rest) := by
  have stop : ∀ c more, rest = some c :: more → isDigit c = false :=
    fun c more here => (closes c more here).1
  obtain ⟨d, ds, split, digital, span⟩ := spanDigits_run x.run stop
  have value : digitsValue x.run.chars = x.run.value := digitsValue_eq _
  rw [split] at span value
  have read : readExponent (symbols ((match x.sign with
      | none => []
      | some false => ['+']
      | some true => ['-']) ++ x.run.chars) ++ rest) = .ok (x.value, rest) := by
    rw [Exponent.value, split]
    match x.sign with
    | none =>
        rw [List.nil_append, readExponent, span]
        · simp [value]
        -- A digit is no sign.
        · rintro _ same
          cases same
          exact absurd digital (by decide)
        · rintro _ same
          cases same
          exact absurd digital (by decide)
    | some false =>
        rw [List.singleton_append, symbols_cons, List.cons_append, readExponent, span]
        simp [value]
    | some true =>
        rw [List.singleton_append, symbols_cons, List.cons_append, readExponent, span]
        simp [value]
  rw [Exponent.chars]
  cases x.capital <;> simp only [Bool.false_eq_true, if_true, if_false, symbols_cons,
    List.cons_append, readExponent?, read] <;> rfl

/-- Nothing is read as an exponent where none can begin. -/
theorem readExponent_optional (x : Option Exponent) {rest : List Symbol} (closes : Closes rest) :
    readExponent? (symbols (x.elim [] Exponent.chars) ++ rest) =
      .ok (x.map Exponent.value, rest) := by
  cases x with
  | some x => exact readExponent_exponent x closes
  | none =>
      change readExponent? rest = _
      rw [readExponent?]
      · rfl
      · rintro more same
        exact (closes 'e' more same).2.2.1 rfl
      · rintro more same
        exact (closes 'E' more same).2.2.2 rfl

/-- The digits of a number's whole part and the text behind them. -/
def readWhole (negative : Bool) (cs : List Symbol) : Except Fault (List Char × List Symbol) :=
  match cs with
  | [] => Except.error (if negative then Fault.endInNumber else Fault.invalidNumber)
  | some '0' :: rest =>
    if (spanDigits rest).1.isEmpty then .ok (['0'], rest) else .error .invalidNumber
  | _ => if (spanDigits cs).1.isEmpty then .error .invalidNumber else .ok (spanDigits cs)

/-- The digits behind a number's point, if there is one, and the text behind them. -/
def readFraction (cs : List Symbol) : Except Fault (Option (List Char) × List Symbol) :=
  match cs with
  | some '.' :: rest =>
    match spanDigits rest with
    | ([], []) => Except.error Fault.endInNumber
    | ([], _ :: _) => Except.error Fault.invalidNumber
    | (digits, more) => Except.ok (some digits, more)
  | rest => Except.ok (none, rest)

theorem readWhole_bind {β : Type} (negative : Bool) (cs : List Symbol)
    (jp : List Char × List Symbol → Except Fault β) :
    (match cs with
      | [] => Except.error (if negative then Fault.endInNumber else Fault.invalidNumber) >>= jp
      | some '0' :: rest =>
        if (spanDigits rest).1.isEmpty then Except.ok (['0'], rest) >>= jp
        else Except.error Fault.invalidNumber >>= jp
      | _ =>
        if (spanDigits cs).1.isEmpty then Except.error Fault.invalidNumber >>= jp
        else Except.ok (spanDigits cs) >>= jp) = readWhole negative cs >>= jp := by
  unfold readWhole
  split
  · rfl
  · split <;> rfl
  · split <;> rfl

theorem readFraction_bind {β : Type} (cs : List Symbol)
    (jp : Option (List Char) × List Symbol → Except Fault β) :
    (match cs with
      | some '.' :: rest =>
        match spanDigits rest with
        | ([], []) => Except.error Fault.endInNumber >>= jp
        | ([], _ :: _) => Except.error Fault.invalidNumber >>= jp
        | (digits, more) => Except.ok (some digits, more) >>= jp
      | rest => Except.ok (none, rest) >>= jp) = readFraction cs >>= jp := by
  unfold readFraction
  split
  · split <;> rfl
  · rfl

/-- A number's parts are read one after the other. -/
theorem readNumberParts_eq (negative : Bool) (cs : List Symbol) :
    readNumberParts negative cs = (do
      let (whole, afterWhole) ← readWhole negative cs
      let (fraction, afterFraction) ← readFraction afterWhole
      let (exponent, rest) ← readExponent? afterFraction
      return (⟨negative, whole, fraction, exponent⟩, rest)) :=
  (readWhole_bind negative cs _).trans
    (congrArg (readWhole negative cs >>= ·) (funext fun _ => readFraction_bind _ _))
namespace Literal

variable (l : Literal) {rest : List Symbol}

theorem exponent_stop (closes : Closes rest) (c : Char) (more : List Symbol)
    (here : symbols (l.exponent.elim [] Exponent.chars) ++ rest = some c :: more) :
    isDigit c = false ∧ c ≠ '.' := by
  cases behind : l.exponent with
  | none =>
      rw [behind] at here
      exact (closes c more here).imp_right And.left
  | some x =>
      rw [behind, Option.elim_some, Exponent.chars, symbols_cons, List.cons_append,
        List.cons.injEq, Option.some.injEq] at here
      rw [← here.1]
      cases x.capital <;> decide

theorem tail_stop (closes : Closes rest) (c : Char) (more : List Symbol)
    (here : symbols l.tail ++ rest = some c :: more) : isDigit c = false := by
  cases behind : l.fraction with
  | none =>
      rw [tail, behind, Option.elim_none, List.nil_append] at here
      exact (l.exponent_stop closes c more here).1
  | some f =>
      rw [tail, behind, Option.elim_some, List.cons_append, symbols_cons, List.cons_append,
        List.cons.injEq, Option.some.injEq] at here
      rw [← here.1]
      decide

/-- The whole part of a literal is read. -/
theorem readWhole_literal (closes : Closes rest) :
    readWhole l.negative (symbols l.whole.chars ++ (symbols l.tail ++ rest)) =
      .ok (l.whole.chars, symbols l.tail ++ rest) := by
  obtain ⟨d, ds, split, digital, span⟩ := spanDigits_run l.whole (l.tail_stop closes)
  have stopped := spanDigits_nil (l.tail_stop closes)
  have noZero := l.noZero
  rw [split] at span noZero ⊢
  by_cases isZero : d = '0'
  · subst isZero
    obtain rfl := noZero ds rfl
    rw [symbols_cons, symbols_nil, List.cons_append, List.nil_append, readWhole, stopped]
    rfl
  · rw [readWhole, span]
    · rfl
    · simp
    · rintro rest same
      cases same
      exact isZero rfl

/-- The fraction of a literal is read, or is none. -/
theorem readFraction_literal (closes : Closes rest) :
    readFraction (symbols l.tail ++ rest) =
      .ok (l.fraction.map Run.chars, symbols (l.exponent.elim [] Exponent.chars) ++ rest) := by
  rw [tail]
  cases l.fraction with
  | none =>
      rw [Option.elim_none, List.nil_append, readFraction]
      · rfl
      · rintro more same
        exact (l.exponent_stop closes '.' more same).2 rfl
  | some f =>
      obtain ⟨d, ds, split, -, span⟩ := spanDigits_run f
        (fun c more here => (l.exponent_stop closes c more here).1)
      rw [Option.elim_some, List.cons_append, symbols_cons, List.cons_append, symbols_append,
        List.append_assoc, readFraction, span, Option.map_some, split]

/-- A literal behind its sign is read as its parts. -/
theorem readNumberParts_literal (closes : Closes rest) :
    readNumberParts l.negative (symbols (l.whole.chars ++ l.tail) ++ rest) =
      .ok (l.parts, rest) := by
  rw [symbols_append, List.append_assoc, readNumberParts_eq, l.readWhole_literal closes]
  change (readFraction _ >>= _) = _
  rw [l.readFraction_literal closes]
  change (readExponent? _ >>= _) = _
  rw [readExponent_optional l.exponent closes]
  rfl

/-- A literal behind its sign is read as the number that it goes to. -/
theorem readNumber_literal (closes : Closes rest) :
    readNumber l.negative (symbols (l.whole.chars ++ l.tail) ++ rest) = ⟨l.reading, some rest⟩ := by
  rw [readNumber, l.readNumberParts_literal closes, reading]
  dsimp only
  cases l.parts.toNumber? <;> rfl

end Literal

/-! ### Strings -/

/-- Four hexadecimal digits are read as their number. -/
theorem readHex4_of_hex4 {a b c d : Char} {n : Nat} (hex : Hex4 a b c d n) (rest : List Symbol) :
    readHex4 (some a :: some b :: some c :: some d :: rest) = .ok (n, rest) := by
  obtain ⟨w, x, y, z, ha, hb, hc, hd, rfl⟩ := hex
  rw [readHex4, ha, hb, hc, hd]

/-- The first character of a spelling is read in one step, whatever follows. -/
theorem stringStep_plain {c : Char} (visible : 32 ≤ c.toNat) (noQuote : c ≠ '"')
    (noBackslash : c ≠ '\\') (rest : List Symbol) :
    stringStep (some c :: rest) = .symbol (some c) rest := by
  rw [stringStep, if_neg (Nat.not_lt.2 visible)] <;> simp_all

/-- An escape of one letter is read as its character. -/
theorem stringStep_letter {a c : Char} (named : escaped? a = some c) (rest : List Symbol) :
    stringStep (some '\\' :: some a :: rest) = .symbol (some c) rest := by
  rw [stringStep]
  · rw [Option.bind_some, named]
  · rintro same
    cases same
    cases named

/-- An escape with a code is read as the character of that code, if there is one. -/
theorem stringStep_code {a b c d : Char} {n : Nat} (hex : Hex4 a b c d n)
    (scalar : n < 0xD800 ∨ 0xDFFF < n) (rest : List Symbol) :
    stringStep (some '\\' :: some 'u' :: some a :: some b :: some c :: some d :: rest) =
      .symbol (some (Char.ofNat n)) rest := by
  rw [stringStep, readUnicodeEscape, readHex4_of_hex4 hex]
  dsimp only
  rw [if_neg (by omega), if_pos (by omega)]

/-- Two escapes with surrogates are read as one character. -/
theorem stringStep_pair {a b c d a' b' c' d' : Char} {n n' : Nat} (hex : Hex4 a b c d n)
    (hex' : Hex4 a' b' c' d' n') (leading : 0xD800 ≤ n ∧ n ≤ 0xDBFF)
    (trailing : 0xDC00 ≤ n' ∧ n' ≤ 0xDFFF) (rest : List Symbol) :
    stringStep (some '\\' :: some 'u' :: some a :: some b :: some c :: some d ::
      some '\\' :: some 'u' :: some a' :: some b' :: some c' :: some d' :: rest) =
      .symbol (some (Char.ofNat ((n - 0xD800) * 1024 + (n' - 0xDC00) + 0x10000))) rest := by
  rw [stringStep, readUnicodeEscape, readHex4_of_hex4 hex]
  dsimp only
  rw [if_neg (by omega), if_neg (by omega)]
  simp only [readHex4_of_hex4 hex', if_pos trailing]

/-- A string goes on behind a symbol of it. -/
theorem readStringFrom_symbol {c : Char} {s : List Char} {found text after : List Symbol}
    {rest : Option (List Symbol)} {fuel : Nat} (step : stringStep text = .symbol (some c) after)
    (others : readStringFrom (some c :: found) none fuel after =
      ⟨.ofSymbols ((symbols s).reverse ++ some c :: found) none none, rest⟩) :
    readStringFrom found none (fuel + 1) text =
      ⟨.ofSymbols ((symbols (c :: s)).reverse ++ found) none none, rest⟩ := by
  rw [readStringFrom, step]
  simpa using others

/-- The characters that are spelled are read one by one up to the closing quote. -/
theorem readStringFrom_spelling {cs s : List Char} (spelled : Spelling cs s) (found : List Symbol)
    (rest : List Symbol) {fuel : Nat} (enough : s.length < fuel) :
    readStringFrom found none fuel (symbols cs ++ some '"' :: rest) =
      ⟨.ofSymbols ((symbols s).reverse ++ found) none none, some rest⟩ := by
  obtain ⟨fuel, rfl⟩ : ∃ k, fuel = k + 1 := ⟨fuel - 1, by omega⟩
  induction spelled generalizing found fuel with
  | nil => rfl
  | plain visible noQuote noBackslash others inductionHypothesis =>
      obtain ⟨fuel, rfl⟩ : ∃ k, fuel = k + 1 := ⟨fuel - 1, by simp at enough; omega⟩
      exact readStringFrom_symbol (stringStep_plain visible noQuote noBackslash _)
        (inductionHypothesis _ _ (Nat.lt_of_succ_lt_succ enough))
  | letter named others inductionHypothesis =>
      obtain ⟨fuel, rfl⟩ : ∃ k, fuel = k + 1 := ⟨fuel - 1, by simp at enough; omega⟩
      exact readStringFrom_symbol (stringStep_letter named _)
        (inductionHypothesis _ _ (Nat.lt_of_succ_lt_succ enough))
  | code hex scalar others inductionHypothesis =>
      obtain ⟨fuel, rfl⟩ : ∃ k, fuel = k + 1 := ⟨fuel - 1, by simp at enough; omega⟩
      exact readStringFrom_symbol (stringStep_code hex scalar _)
        (inductionHypothesis _ _ (Nat.lt_of_succ_lt_succ enough))
  | pair hex hex' leading trailing others inductionHypothesis =>
      obtain ⟨fuel, rfl⟩ : ∃ k, fuel = k + 1 := ⟨fuel - 1, by simp at enough; omega⟩
      exact readStringFrom_symbol (stringStep_pair hex hex' leading trailing _)
        (inductionHypothesis _ _ (Nat.lt_of_succ_lt_succ enough))

/-- Characters that need no escape spell themselves. -/
theorem Spelling.self {s : List Char}
    (plain : (s.all fun c => decide (32 ≤ c.toNat) && c != '"' && c != '\\') = true) :
    Spelling s s := by
  induction s with
  | nil => exact .nil
  | cons c s inductionHypothesis =>
      simp only [List.all_cons, Bool.and_eq_true, decide_eq_true_eq, bne_iff_ne] at plain
      obtain ⟨⟨⟨visible, noQuote⟩, noBackslash⟩, others⟩ := plain
      exact .plain visible noQuote noBackslash (inductionHypothesis others)

/-- No character of a string is spelled with nothing. -/
theorem Spelling.length_le {cs s : List Char} (spelled : Spelling cs s) : s.length ≤ cs.length := by
  induction spelled with
  | nil => exact Nat.le_refl 0
  | _ =>
      simp only [List.length_cons]
      omega

/-- A spelled string is read from behind its opening quote, and what follows is left. -/
theorem readString_spelling {cs : List Char} {s : String} (spelled : Spelling cs s.toList)
    (rest : List Symbol) :
    readString (symbols cs ++ some '"' :: rest) = ⟨⟨s.toList, none, none⟩, some rest⟩ := by
  have short := spelled.length_le
  rw [readString, readStringFrom_spelling spelled, List.append_nil, ofSymbols_symbols]
  simp only [List.length_append, length_symbols]
  omega

/-! ### Values -/

theorem closes_nil : Closes [] :=
  nofun

theorem closes_cons {c : Char} {rest : List Symbol}
    (apart : isDigit c = false ∧ c ≠ '.' ∧ c ≠ 'e' ∧ c ≠ 'E') : Closes (some c :: rest) := by
  intro d more same
  cases same
  exact apart

/-- White space goes on no number. -/
theorem Closes.blank {gap : List Char} {rest : List Symbol} (closes : Closes rest)
    (blank : Blank gap) : Closes (symbols gap ++ rest) := by
  cases gap with
  | nil => exact closes
  | cons c gap =>
      have space := blank c List.mem_cons_self
      simp only [isSpace, Bool.or_eq_true, decide_eq_true_eq] at space
      obtain ((rfl | rfl) | rfl) | rfl := space <;> exact closes_cons (by decide)

/-- A literal begins a value. -/
theorem Literal.begins (l : Literal) (rest : List Symbol) : Begins (symbols l.chars ++ rest) := by
  rw [chars]
  cases l.negative with
  | true => exact ⟨'-', _, rfl, by decide, by decide⟩
  | false =>
      obtain ⟨d, ds, split⟩ := List.exists_cons_of_ne_nil l.whole.nonempty
      have digital := l.whole.digital d (split ▸ List.mem_cons_self)
      rw [split]
      refine ⟨d, _, rfl, isSpace_of_isDigit digital, ?_⟩
      rintro rfl
      exact absurd digital (by decide)

/-- A value begins with something else than white space or the end of an array. -/
theorem ValueText.begins {cs : List Char} {v : Source} (written : ValueText cs v)
    (rest : List Symbol) : Begins (symbols cs ++ rest) := by
  cases written with
  | null => exact ⟨'n', _, rfl, by decide, by decide⟩
  | «true» => exact ⟨'t', _, rfl, by decide, by decide⟩
  | «false» => exact ⟨'f', _, rfl, by decide, by decide⟩
  | number l => exact l.begins rest
  | string spelled => exact ⟨'"', _, rfl, by decide, by decide⟩
  | emptyArray blank => exact ⟨'[', _, rfl, by decide, by decide⟩
  | array written => exact ⟨'[', _, rfl, by decide, by decide⟩
  | emptyObject blank => exact ⟨'\x7b', _, rfl, by decide, by decide⟩
  | object written => exact ⟨'\x7b', _, rfl, by decide, by decide⟩

theorem Begins.skipSpace {text : List Symbol} (begins : Begins text) :
    Json.skipSpace text = text := by
  obtain ⟨c, rest, rfl, space, -⟩ := begins
  exact skipSpace_cons rest space

theorem ValueText.length_pos {cs : List Char} {v : Source} (written : ValueText cs v) :
    1 ≤ cs.length := by
  obtain ⟨c, rest, same, -⟩ := written.begins []
  have length := congrArg List.length same
  simp only [List.append_nil, length_symbols, List.length_cons] at length
  omega

theorem ElementText.length_pos {cs : List Char} {v : Source} (written : ElementText cs v) :
    1 ≤ cs.length := by
  cases written with
  | mk blank written blank' =>
      have := written.length_pos
      simp only [List.length_append]
      omega

/-- Behind the white space before it, a value begins. -/
theorem ElementText.begins {cs : List Char} {v : Source} (written : ElementText cs v)
    (rest : List Symbol) : Begins (Json.skipSpace (symbols cs ++ rest)) := by
  cases written with
  | @mk before text after _ blank written blank' =>
      have begins := written.begins (symbols after ++ rest)
      rw [symbols_append, symbols_append, List.append_assoc, List.append_assoc,
        skipSpace_symbols blank, begins.skipSpace]
      exact begins

theorem ItemsText.begins {cs : List Char} {items : List Source} (written : ItemsText cs items)
    (rest : List Symbol) : Begins (Json.skipSpace (symbols cs ++ rest)) := by
  cases written with
  | last item => exact item.begins rest
  | more item others =>
      rw [symbols_append, List.append_assoc]
      exact item.begins _

theorem readItems_skipSpace (depth fuel : Nat) (first : Bool) (text : List Symbol) :
    readItems depth fuel first (skipSpace text) = readItems depth fuel first text := by
  cases fuel with
  | zero => rw [readItems, readItems]
  | succ fuel => rw [readItems, readItems, skipSpace_skipSpace]

theorem readMembers_skipSpace (depth fuel : Nat) (first : Bool) (text : List Symbol) :
    readMembers depth fuel first (skipSpace text) = readMembers depth fuel first text := by
  cases fuel with
  | zero => rw [readMembers, readMembers]
  | succ fuel => rw [readMembers, readMembers, skipSpace_skipSpace]

/-- Behind the bracket of an array that has items the first of them is read. -/
theorem readItems_opened {text : List Symbol} (begins : Begins (skipSpace text))
    (depth fuel : Nat) : readItems depth (fuel + 1) true text = readItem depth fuel text := by
  rw [← readItems_skipSpace, readItems_first begins, readItem_skipSpace]

/-- White space before the first item or the next comma is skipped. -/
theorem readItems_blank {gap : List Char} (blank : Blank gap) (depth fuel : Nat) (first : Bool)
    (text : List Symbol) :
    readItems depth fuel first (symbols gap ++ text) = readItems depth fuel first text := by
  rw [← readItems_skipSpace, skipSpace_symbols blank, readItems_skipSpace]

/-- Behind a comma the next item is read. -/
theorem readItems_next {text : List Symbol} (begins : Begins (skipSpace text))
    (depth fuel : Nat) :
    readItems depth (fuel + 1) false (some ',' :: text) = readItem depth fuel text := by
  rw [← readItem_skipSpace]
  obtain ⟨c, rest, same, space, open_⟩ := begins
  rw [readItems, skipSpace_cons _ (by decide)]
  split
  · contradiction
  · rename_i same
    simp at same
  · rename_i here
    cases here
    simp only [same]
    split <;> simp_all

theorem readMembers_blank {gap : List Char} (blank : Blank gap) (depth fuel : Nat) (first : Bool)
    (text : List Symbol) :
    readMembers depth fuel first (symbols gap ++ text) = readMembers depth fuel first text := by
  rw [← readMembers_skipSpace, skipSpace_symbols blank, readMembers_skipSpace]

/-- Behind a comma the next member is read. -/
theorem readMembers_next {text rest : List Symbol} (quoted : skipSpace text = some '"' :: rest)
    (depth fuel : Nat) :
    readMembers depth (fuel + 1) false (some ',' :: text) =
      readMember depth fuel (some '"' :: rest) := by
  rw [readMembers, skipSpace_cons _ (by decide)]
  split
  · contradiction
  · rename_i same
    simp at same
  · rename_i here
    cases here
    simp only [quoted]
    split <;> simp_all

/-- An array is read as its items, as deep as it is. -/
theorem readValue_array {depth fuel : Nat} {items : List Reading} {text rest : List Symbol}
    (read : readItems (depth + 1) fuel true text = ⟨(items, none), some rest⟩) :
    readValue depth (fuel + 1) (some '[' :: text) =
      ⟨atDepth depth (.array items none), some rest⟩ := by
  rw [readValue, skipSpace_cons _ (by decide)]
  simp [read]

/-- An object is read as its members, as deep as it is. -/
theorem readValue_object {depth fuel : Nat} {members : List (String × Reading)}
    {text rest : List Symbol} (opens : opensObject (skipSpace text) = true)
    (read : readMembers (depth + 1) fuel true text = ⟨(members, none), some rest⟩) :
    readValue depth (fuel + 1) (some '\x7b' :: text) =
      ⟨atDepth depth (.object members none), some rest⟩ := by
  rw [readValue, skipSpace_cons _ (by decide)]
  simp [read, opens]

/-- A key as it is spelled, its colon and its value are read as a member, and then the others. -/
theorem readMember_spelling {depth fuel : Nat} {cs after : List Char} {key : String}
    {value : Reading} {text rest : List Symbol} (spelled : Spelling cs key.toList)
    (blank : Blank after) (read : readValue depth fuel text = ⟨value, some rest⟩) :
    readMember depth (fuel + 1)
        (some '"' :: (symbols cs ++ some '"' :: (symbols after ++ some ':' :: text))) =
      ⟨((key, value) :: (readMembers depth fuel false rest).part.1,
        (readMembers depth fuel false rest).part.2), (readMembers depth fuel false rest).rest⟩ := by
  rw [readMember, readString_spelling spelled]
  simp only [skipSpace_symbols blank, skipSpace_cons _ (show isSpace ':' = false by decide), read]
  simp [StringRead.member]

/-- Members begin with white space and the quote of the first key. -/
theorem MembersText.quoted {cs : List Char} {members : List (String × Source)}
    (written : MembersText cs members) (rest : List Symbol) :
    ∃ more, skipSpace (symbols cs ++ rest) = some '"' :: more := by
  cases written with
  | last blank spelled blank' value =>
      simp only [symbols_append, symbols_cons, List.append_assoc, List.cons_append]
      rw [skipSpace_symbols blank]
      exact ⟨_, skipSpace_cons _ (by decide)⟩
  | more blank spelled blank' value others =>
      simp only [symbols_append, symbols_cons, List.append_assoc, List.cons_append]
      rw [skipSpace_symbols blank]
      exact ⟨_, skipSpace_cons _ (by decide)⟩

mutual

/-- A value's text is read as the value, and what follows is left. -/
theorem readValue_text :
    ∀ {cs : List Char} {v : Source}, ValueText cs v → ∀ (depth fuel : Nat) {rest : List Symbol},
      Closes rest → 3 * cs.length ≤ fuel →
        readValue depth fuel (symbols cs ++ rest) = ⟨v.reading depth, some rest⟩
  | _, _, .null, depth, fuel + 1, rest, _, _ => readValue_null depth fuel rest
  | _, _, .«true», depth, fuel + 1, rest, _, _ => readValue_true depth fuel rest
  | _, _, .«false», depth, fuel + 1, rest, _, _ => readValue_false depth fuel rest
  | _, _, .number l, depth, fuel + 1, rest, closes, _ => by
      have number := l.readNumber_literal closes
      rw [Literal.chars]
      cases sign : l.negative with
      | true =>
          rw [sign] at number
          rw [if_pos rfl, List.singleton_append, symbols_cons, List.cons_append, readValue_minus,
            number]
          rfl
      | false =>
          rw [sign] at number
          obtain ⟨d, ds, split⟩ := List.exists_cons_of_ne_nil l.whole.nonempty
          have digital := l.whole.digital d (split ▸ List.mem_cons_self)
          rw [if_neg (by decide), List.nil_append]
          rw [split, List.cons_append, symbols_cons, List.cons_append] at number ⊢
          rw [readValue_digit digital, number]
          rfl
  | _, _, .string spelled, depth, fuel + 1, rest, _, _ => by
      rw [List.cons_append, symbols_cons, symbols_append, symbols_cons, symbols_nil,
        List.cons_append, List.append_assoc, List.singleton_append, readValue_quote,
        readString_spelling spelled, Source.reading]
      simp [StringRead.toReading]
  | _, _, .emptyArray blank, depth, fuel, rest, _, enough => by
      obtain ⟨fuel, rfl⟩ : ∃ k, fuel = k + 2 := ⟨fuel - 2, by simp at enough; omega⟩
      rw [List.cons_append, symbols_cons, symbols_append, List.cons_append, List.append_assoc,
        Source.reading, readingsOfItems]
      exact readValue_array ((readItems_blank blank _ _ _ _).trans (readItems_end _ _ _ _))
  | _, _, .array written, depth, fuel, rest, _, enough => by
      simp only [List.length_append, List.length_cons, List.length_nil] at enough
      obtain ⟨fuel, rfl⟩ : ∃ k, fuel = k + 2 := ⟨fuel - 2, by omega⟩
      rw [List.cons_append, symbols_cons, symbols_append, List.cons_append, List.append_assoc,
        Source.reading]
      refine readValue_array ?_
      rw [readItems_opened (written.begins _)]
      exact readItem_text written (depth + 1) fuel rest (by omega)
  | _, _, .emptyObject blank, depth, fuel, rest, _, enough => by
      obtain ⟨fuel, rfl⟩ : ∃ k, fuel = k + 2 := ⟨fuel - 2, by simp at enough; omega⟩
      rw [List.cons_append, symbols_cons, symbols_append, List.cons_append, List.append_assoc,
        Source.reading, readingsOfMembers]
      refine readValue_object ?_
        ((readMembers_blank blank _ _ _ _).trans (readMembers_end _ _ _ _))
      rw [skipSpace_symbols blank]
      rfl
  | _, _, .object written, depth, fuel, rest, _, enough => by
      simp only [List.length_append, List.length_cons, List.length_nil] at enough
      obtain ⟨fuel, rfl⟩ : ∃ k, fuel = k + 2 := ⟨fuel - 2, by omega⟩
      have read := readMember_text written (depth + 1) fuel rest (by omega)
      obtain ⟨more, quoted⟩ := written.quoted (some '\x7d' :: rest)
      rw [List.cons_append, symbols_cons, symbols_append, List.cons_append, List.append_assoc,
        Source.reading]
      refine readValue_object ?_ ?_
      · rw [symbols_cons, symbols_nil, List.singleton_append, quoted]
        rfl
      · rw [← readMembers_skipSpace, symbols_cons, symbols_nil, List.singleton_append]
        rw [quoted] at read ⊢
        rw [readMembers_first, read]
  | _, _, written, _, 0, _, _, enough => by
      have := written.length_pos
      omega

/-- A value with white space around it is read, and the space behind it is left. -/
theorem readValue_element :
    ∀ {cs : List Char} {v : Source}, ElementText cs v → ∀ (depth fuel : Nat) {rest : List Symbol},
      Closes rest → 3 * cs.length ≤ fuel →
        ∃ gap, Blank gap ∧
          readValue depth fuel (symbols cs ++ rest) =
            ⟨v.reading depth, some (symbols gap ++ rest)⟩
  | _, _, .mk blank written blank', depth, fuel, rest, closes, enough => by
      refine ⟨_, blank', ?_⟩
      simp only [List.length_append] at enough
      rw [symbols_append, symbols_append, List.append_assoc, List.append_assoc,
        ← readValue_skipSpace, skipSpace_symbols blank, readValue_skipSpace]
      exact readValue_text written depth fuel (closes.blank blank') (by omega)

/-- Items are read from the first of them to the bracket behind the last. -/
theorem readItem_text :
    ∀ {cs : List Char} {items : List Source}, ItemsText cs items →
      ∀ (depth fuel : Nat) (rest : List Symbol), 3 * cs.length < fuel →
        readItem depth fuel (symbols cs ++ some ']' :: rest) =
          ⟨(readingsOfItems depth items, none), some rest⟩
  | cs, _, .last item, depth, fuel, rest, enough => by
      have positive := item.length_pos
      obtain ⟨fuel, rfl⟩ : ∃ k, fuel = k + 2 := ⟨fuel - 2, by omega⟩
      have closes : Closes (some ']' :: rest) := closes_cons (by decide)
      obtain ⟨gap, blank, read⟩ := readValue_element item depth (fuel + 1) closes (by omega)
      rw [readItem, read]
      simp only [readItems_blank blank, readItems_end]
      rfl
  | _, _, @ItemsText.more cs ds _ _ item others, depth, fuel, rest, enough => by
      simp only [List.length_append, List.length_cons] at enough
      obtain ⟨fuel, rfl⟩ : ∃ k, fuel = k + 2 := ⟨fuel - 2, by omega⟩
      have closes : Closes (some ',' :: (symbols ds ++ some ']' :: rest)) :=
        closes_cons (by decide)
      obtain ⟨gap, blank, read⟩ := readValue_element item depth (fuel + 1) closes (by omega)
      have items := readItem_text others depth fuel rest (by omega)
      rw [symbols_append, symbols_cons, List.append_assoc, List.cons_append, readItem, read]
      simp only [readItems_blank blank, readItems_next (others.begins _), items]
      rfl

/-- Members are read from the first of them to the brace behind the last. -/
theorem readMember_text :
    ∀ {cs : List Char} {members : List (String × Source)}, MembersText cs members →
      ∀ (depth fuel : Nat) (rest : List Symbol), 3 * cs.length < fuel →
        readMember depth fuel (skipSpace (symbols cs ++ some '\x7d' :: rest)) =
          ⟨(readingsOfMembers depth members, none), some rest⟩
  | _, _, .last blank spelled blank' value, depth, fuel, rest, enough => by
      simp only [List.length_append, List.length_cons] at enough
      obtain ⟨fuel, rfl⟩ : ∃ k, fuel = k + 2 := ⟨fuel - 2, by omega⟩
      have closes : Closes (some '\x7d' :: rest) := closes_cons (by decide)
      obtain ⟨gap, blank'', read⟩ := readValue_element value depth (fuel + 1) closes (by omega)
      simp only [symbols_append, symbols_cons, List.append_assoc, List.cons_append]
      rw [skipSpace_symbols blank, skipSpace_cons _ (by decide),
        readMember_spelling spelled blank' read]
      simp only [readMembers_blank blank'', readMembers_end]
      rfl
  | _, _, @MembersText.more before cs after ds es _ _ _ blank spelled blank' value others, depth,
      fuel, rest, enough => by
      simp only [List.length_append, List.length_cons] at enough
      obtain ⟨fuel, rfl⟩ : ∃ k, fuel = k + 2 := ⟨fuel - 2, by omega⟩
      have closes : Closes (some ',' :: (symbols es ++ some '\x7d' :: rest)) :=
        closes_cons (by decide)
      obtain ⟨gap, blank'', read⟩ := readValue_element value depth (fuel + 1) closes (by omega)
      have members := readMember_text others depth fuel rest (by omega)
      obtain ⟨more, quoted⟩ := others.quoted (some '\x7d' :: rest)
      simp only [symbols_append, symbols_cons, List.append_assoc, List.cons_append]
      rw [skipSpace_symbols blank, skipSpace_cons _ (by decide),
        readMember_spelling spelled blank' read]
      rw [quoted] at members
      simp only [readMembers_blank blank'', readMembers_next quoted, members]
      rfl

end

/-! ### Whole texts -/

/-- A grammatical text is the document of the value that stands in it. -/
theorem read_element {text : String} {v : Source} (written : ElementText text.toList v) :
    read text = ⟨v.reading 0, none⟩ := by
  obtain ⟨gap, blank, value⟩ := readValue_element written 0 (3 * text.toList.length + 3)
    closes_nil (by omega)
  rw [List.append_nil] at value
  rw [read, readSymbols, List.length_map, show text.toList.map some = symbols text.toList from rfl,
    value]
  have nothing : skipSpace (symbols gap ++ []) = [] := skipSpace_symbols blank []
  simp only [nothing]
  rfl

end LedgerAgent.Json
