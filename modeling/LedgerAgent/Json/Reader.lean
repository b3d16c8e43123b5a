/-
Module: LedgerAgent.Json.Reader
Purpose: Reading JSON text: strict grammar, 127 levels of nesting at most.
Main exports: Json.Document, Json.read, Json.readBytes, Json.parse
-/
import LedgerAgent.Json.Reading
import LedgerAgent.Text.Bytes
import LedgerAgent.Text.Numeral

namespace LedgerAgent.Json

/-- What a text is read in: a character, or a byte that belongs to none.  Text that
came as characters has only the former. -/
abbrev Symbol := Option Char

def symbolSize (c : Symbol) : Nat :=
  (c.map Char.utf8Size).getD 1

/-- The white space of JSON. -/
def isSpace (c : Char) : Bool :=
  c = ' ' || c = '\n' || c = '\t' || c = '\r'

/-- Text without the white space before it. -/
def skipSpace (cs : List Symbol) : List Symbol :=
  cs.dropWhile fun c => c.any isSpace

/-- A part of the text that was read, and the text behind it.  There is none
behind a part whose text went wrong. -/
structure Step (α : Type) where
  part : α
  rest : Option (List Symbol)

def hexValue? (c : Char) : Option Nat :=
  let n := c.toNat
  if 48 ≤ n ∧ n ≤ 57 then some (n - 48)
  else if 97 ≤ n ∧ n ≤ 102 then some (n - 87)
  else if 65 ≤ n ∧ n ≤ 70 then some (n - 55)
  else none

/-- The number of four hexadecimal digits, or whether the text ends before them.
The end is judged by bytes, as the digits of a complete escape are. -/
def readHex4 : List Symbol → Except Fault (Nat × List Symbol)
  | some a :: some b :: some c :: some d :: rest =>
    match hexValue? a, hexValue? b, hexValue? c, hexValue? d with
    | some a, some b, some c, some d => .ok (4096 * a + 256 * b + 16 * c + d, rest)
    | _, _, _, _ => .error .invalidEscape
  | cs =>
    if cs.foldr (fun c n => symbolSize c + n) 0 < 4 then .error .endInString
    else .error .invalidEscape

/-- What one step through a string's text gives. -/
inductive StringStep where
  | done (rest : List Symbol)
  | symbol (c : Symbol) (rest : List Symbol)
  /-- The escape denotes no character, but the text goes on behind it. -/
  | spoilt (fault : Fault) (rest : List Symbol)
  | halt (fault : Fault)

/-- The character of an escape of one letter. -/
def escaped? : Char → Option Char
  | '"' => some '"'
  | '\\' => some '\\'
  | '/' => some '/'
  | 'b' => some (Char.ofNat 8)
  | 'f' => some (Char.ofNat 12)
  | 'n' => some '\n'
  | 'r' => some '\r'
  | 't' => some '\t'
  | _ => none

/-- The escape behind `\u`.  A leading surrogate needs a trailing one right
behind it, and the two make one character. -/
def readUnicodeEscape (cs : List Symbol) : StringStep :=
  match readHex4 cs with
  | .error f => .halt f
  | .ok (n, rest) =>
    if 0xDC00 ≤ n ∧ n ≤ 0xDFFF then .spoilt .loneSurrogate rest
    else if n < 0xD800 ∨ 0xDBFF < n then .symbol (Char.ofNat n) rest
    else
      match rest with
      | [] => .halt .endInString
      | some '\\' :: some 'u' :: more =>
        match readHex4 more with
        | .error f => .halt f
        | .ok (m, after) =>
          if 0xDC00 ≤ m ∧ m ≤ 0xDFFF then
            .symbol (Char.ofNat ((n - 0xD800) * 1024 + (m - 0xDC00) + 0x10000)) after
          else .spoilt .loneSurrogate after
      | some '\\' :: [] => .halt .endInString
      | _ => .spoilt .unpairedEscape rest

/-- One step through a string's text, from behind its opening quote. -/
def stringStep : List Symbol → StringStep
  | [] => .halt .endInString
  | none :: rest => .symbol none rest
  | some '"' :: rest => .done rest
  | some '\\' :: [] => .halt .endInString
  | some '\\' :: some 'u' :: rest => readUnicodeEscape rest
  | some '\\' :: c :: rest =>
    match c.bind escaped? with
    | some e => .symbol e rest
    | none => .halt .invalidEscape
  | some c :: rest => if c.toNat < 32 then .halt .controlCharacter else .symbol c rest

/-- A string that was read: its characters, the first fault that spoils it, and
the fault that the text ends in. -/
structure StringRead where
  chars : List Char
  spoilt : Option Fault
  halt : Option Fault

/-- A string of the symbols `found`, held in reverse, from the first fault in it and
the fault that the text ends in.  Bytes that are no text spoil it at its end. -/
def StringRead.ofSymbols (found : List Symbol) (spoilt halt : Option Fault) : StringRead :=
  let stray : Option Fault := if found.all Option.isSome then none else some .invalidUnicode
  ⟨found.reverse.filterMap id, spoilt.or (if halt.isSome then none else stray), halt⟩

/-- The rest of a string behind the symbols `found`, held in reverse. -/
def readStringFrom (found : List Symbol) (spoilt : Option Fault) :
    Nat → List Symbol → Step StringRead
  | 0, _ => ⟨.ofSymbols found spoilt (some .endInString), none⟩
  | fuel + 1, cs =>
    match stringStep cs with
    | .done rest => ⟨.ofSymbols found spoilt none, some rest⟩
    | .symbol c rest => readStringFrom (c :: found) spoilt fuel rest
    | .spoilt f rest => readStringFrom found (spoilt.or (some f)) fuel rest
    | .halt f => ⟨.ofSymbols found spoilt (some f), none⟩

/-- A string from behind its opening quote. -/
def readString (cs : List Symbol) : Step StringRead :=
  readStringFrom [] none (cs.length + 1) cs

/-- A string as a value. -/
def StringRead.toReading (s : StringRead) : Reading :=
  let inside : Reading :=
    match s.halt with
    | some f => .halt f
    | none => .string (String.ofList s.chars)
  match s.spoilt with
  | some f => .spoilt f inside
  | none => inside

/-- The member of a key and a value. -/
def StringRead.member (key : StringRead) (value : Reading) : String × Reading :=
  match key.spoilt with
  | some f => ("", .spoiltKey f value)
  | none => (String.ofList key.chars, value)

/-- What an object has from a key that its text goes wrong in. -/
def StringRead.endedMembers (key : StringRead) : List (String × Reading) × Option Fault :=
  let fault := key.halt.getD .endInString
  match key.spoilt with
  | some f => ([("", .spoiltKey f (.halt fault))], none)
  | none => ([], some fault)

/-- The digits at the front of a text and the text behind them. -/
def spanDigits (cs : List Symbol) : List Char × List Symbol :=
  let isDigit (c : Symbol) : Bool := c.any Text.Numeral.isDigit
  ((cs.takeWhile isDigit).filterMap id, cs.dropWhile isDigit)

/-- The natural number of a run of digits. -/
def digitsValue (ds : List Char) : Nat :=
  ds.foldl (fun n d => n * 10 + (d.toNat - 48)) 0

/-- The parts of a number's text. -/
structure NumberParts where
  negative : Bool
  whole : List Char
  fraction : Option (List Char)
  exponent : Option Int

/-- The number that the parts denote, unless it is too large for any class.  An
integer goes to the integer classes if it fits one; minus zero does not. -/
def NumberParts.toNumber? (p : NumberParts) : Option Number :=
  match p.fraction, p.exponent with
  | none, none =>
    let n := digitsValue p.whole
    if !p.negative && n < Nat.pow 2 64 then some (.natural (UInt64.ofNat n))
    else if p.negative && 0 < n && n ≤ Nat.pow 2 63 then some (.negative (Int64.ofInt (-(n : Int))))
    else (Decimal.Binary64.ofDecimal? p.negative n 0).map .real
  | fraction, exponent =>
    let f := fraction.getD []
    (Decimal.Binary64.ofDecimal? p.negative (digitsValue (p.whole ++ f))
      (exponent.getD 0 - (f.length : Int))).map .real

def readExponent (cs : List Symbol) : Except Fault (Int × List Symbol) :=
  let (negative, ds) : Bool × List Symbol :=
    match cs with
    | some '+' :: rest => (false, rest)
    | some '-' :: rest => (true, rest)
    | rest => (false, rest)
  match spanDigits ds with
  | ([], []) => .error .endInNumber
  | ([], _ :: _) => .error .invalidNumber
  | (digits, rest) =>
    let n : Int := digitsValue digits
    .ok (if negative then -n else n, rest)

def readExponent? (cs : List Symbol) : Except Fault (Option Int × List Symbol) :=
  match cs with
  | some 'e' :: rest => (readExponent rest).map fun (e, more) => (some e, more)
  | some 'E' :: rest => (readExponent rest).map fun (e, more) => (some e, more)
  | rest => .ok (none, rest)

/-- The parts of a number behind its sign. -/
def readNumberParts (negative : Bool) (cs : List Symbol) :
    Except Fault (NumberParts × List Symbol) := do
  let (whole, afterWhole) ←
    match cs with
    | [] => Except.error (if negative then Fault.endInNumber else Fault.invalidNumber)
    | some '0' :: rest =>
      if (spanDigits rest).1.isEmpty then Except.ok (['0'], rest)
      else Except.error Fault.invalidNumber
    | _ =>
      if (spanDigits cs).1.isEmpty then Except.error Fault.invalidNumber
      else Except.ok (spanDigits cs)
  let (fraction, afterFraction) ←
    match afterWhole with
    | some '.' :: rest =>
      match spanDigits rest with
      | ([], []) => Except.error Fault.endInNumber
      | ([], _ :: _) => Except.error Fault.invalidNumber
      | (digits, more) => Except.ok (some digits, more)
    | rest => Except.ok (none, rest)
  let (exponent, rest) ← readExponent? afterFraction
  return (⟨negative, whole, fraction, exponent⟩, rest)

def readNumber (negative : Bool) (cs : List Symbol) : Step Reading :=
  match readNumberParts negative cs with
  | .error f => ⟨.halt f, none⟩
  | .ok (parts, rest) =>
    match parts.toNumber? with
    | some n => ⟨.number n, some rest⟩
    | none => ⟨.spoilt .numberOutOfRange .null, some rest⟩

def readWord (word : List Char) (value : Reading) : List Symbol → Step Reading
  | cs =>
    match word, cs with
    | [], rest => ⟨value, some rest⟩
    | _ :: _, [] => ⟨.halt .endInWord, none⟩
    | w :: word, c :: rest =>
      if c = some w then readWord word value rest else ⟨.halt .expectedIdent, none⟩

/-- Whether the text behind an object's brace can go on as an object: with a key,
with the other brace, or not at all. -/
def opensObject (cs : List Symbol) : Bool :=
  cs.head?.all fun c => c = some '"' || c = some '\x7d'

def maxDepth : Nat := 127

/-- An array or object at a depth; one that lies too deep denotes nothing. -/
def atDepth (depth : Nat) (container : Reading) : Reading :=
  if depth < maxDepth then container else .spoilt .tooDeep container

mutual

/-- The value at the front of a text, `depth` containers around it.  Each call
reads at least one character, so the length of the text bounds `fuel`. -/
def readValue (depth : Nat) : Nat → List Symbol → Step Reading
  | 0, _ => ⟨.halt .endInValue, none⟩
  | fuel + 1, cs =>
    match skipSpace cs with
    | [] => ⟨.halt .endInValue, none⟩
    | some '"' :: rest =>
      let step := readString rest
      ⟨step.part.toReading, step.rest⟩
    | some '[' :: rest =>
      let step := readItems (depth + 1) fuel true rest
      ⟨atDepth depth (.array step.part.1 step.part.2), step.rest⟩
    | some '\x7b' :: rest =>
      if opensObject (skipSpace rest) then
        let step := readMembers (depth + 1) fuel true rest
        ⟨atDepth depth (.object step.part.1 step.part.2), step.rest⟩
      else ⟨atDepth depth (.keyless (readValue (depth + 1) fuel rest).part), none⟩
    | some 'n' :: rest => readWord ['u', 'l', 'l'] .null rest
    | some 't' :: rest => readWord ['r', 'u', 'e'] (.bool true) rest
    | some 'f' :: rest => readWord ['a', 'l', 's', 'e'] (.bool false) rest
    | some '-' :: rest => readNumber true rest
    | c :: rest =>
      if c.any Text.Numeral.isDigit then readNumber false (c :: rest)
      else ⟨.halt .expectedValue, none⟩

/-- The items of an array behind its bracket or behind an item. -/
def readItems (depth : Nat) :
    Nat → Bool → List Symbol → Step (List Reading × Option Fault)
  | 0, _, _ => ⟨([], some .endInArray), none⟩
  | fuel + 1, first, cs =>
    match skipSpace cs with
    | [] => ⟨([], some .endInArray), none⟩
    | some ']' :: rest => ⟨([], none), some rest⟩
    | c :: rest =>
      if first then readItem depth fuel (c :: rest)
      else if c = some ',' then
        match skipSpace rest with
        | [] => ⟨([], some .endInValue), none⟩
        | some ']' :: _ => ⟨([], some .trailingComma), none⟩
        | more => readItem depth fuel more
      else ⟨([], some .expectedItemEnd), none⟩

/-- An item and the items behind it. -/
def readItem (depth : Nat) :
    Nat → List Symbol → Step (List Reading × Option Fault)
  | 0, _ => ⟨([], some .endInArray), none⟩
  | fuel + 1, cs =>
    let item := readValue depth fuel cs
    match item.rest with
    | none => ⟨([item.part], none), none⟩
    | some rest =>
      let others := readItems depth fuel false rest
      ⟨(item.part :: others.part.1, others.part.2), others.rest⟩

/-- The members of an object behind its brace or behind a member. -/
def readMembers (depth : Nat) :
    Nat → Bool → List Symbol → Step (List (String × Reading) × Option Fault)
  | 0, _, _ => ⟨([], some .endInObject), none⟩
  | fuel + 1, first, cs =>
    match skipSpace cs with
    | [] => ⟨([], some .endInObject), none⟩
    | some '\x7d' :: rest => ⟨([], none), some rest⟩
    | c :: rest =>
      if first then readMember depth fuel (c :: rest)
      else if c = some ',' then
        match skipSpace rest with
        | [] => ⟨([], some .endInValue), none⟩
        | some '\x7d' :: _ => ⟨([], some .trailingComma), none⟩
        | more => readMember depth fuel more
      else ⟨([], some .expectedMemberEnd), none⟩

/-- A member and the members behind it. -/
def readMember (depth : Nat) :
    Nat → List Symbol → Step (List (String × Reading) × Option Fault)
  | 0, _ => ⟨([], some .endInObject), none⟩
  | fuel + 1, cs =>
    match cs with
    | some '"' :: afterQuote =>
      let key := readString afterQuote
      match key.rest with
      | none => ⟨key.part.endedMembers, none⟩
      | some afterKey =>
        match skipSpace afterKey with
        | [] => ⟨([key.part.member (.halt .endInObject)], none), none⟩
        | some ':' :: afterColon =>
          let value := readValue depth fuel afterColon
          match value.rest with
          | none => ⟨([key.part.member value.part], none), none⟩
          | some rest =>
            let others := readMembers depth fuel false rest
            ⟨(key.part.member value.part :: others.part.1, others.part.2), others.rest⟩
        | _ => ⟨([key.part.member (.halt .expectedColon)], none), none⟩
    | _ => ⟨([], some .expectedKey), none⟩

end

/-- A whole text: its value, and the fault of what follows the value. -/
structure Document where
  root : Reading
  trailing : Option Fault
deriving Repr

def readSymbols (cs : List Symbol) : Document :=
  let step := readValue 0 (3 * cs.length + 3) cs
  match step.rest with
  | none => ⟨step.part, none⟩
  | some rest =>
    ⟨step.part, if (skipSpace rest).isEmpty then none else some .trailingCharacters⟩

/-- Read a text. -/
def read (text : String) : Document :=
  readSymbols (text.toList.map some)

/-- The symbols of bytes that need not be text. -/
def symbolsOf : Nat → List UInt8 → List Symbol
  | 0, _ => []
  | _, [] => []
  | fuel + 1, lead :: rest =>
    match Text.utf8Step lead rest with
    | .character n =>
      let taken := lead :: rest.take (n - 1)
      ((Text.ofBytes? taken).map fun text => text.toList.map some).getD [none] ++
        symbolsOf fuel (rest.drop (n - 1))
    | _ => none :: symbolsOf fuel rest

/-- Read bytes.  Bytes that are no text spoil the string they stand in and are
never part of anything else. -/
def readBytes (bs : List UInt8) : Document :=
  match Text.ofBytes? bs with
  | some text => read text
  | none => readSymbols (symbolsOf bs.length bs)

/-- The value of a whole text, or the first fault in it. -/
def Document.toJson (d : Document) : Except Fault Json :=
  match d.root.toJson, d.trailing with
  | .error f, _ => .error f
  | .ok _, some f => .error f
  | .ok v, none => .ok v

/-- The value of a text, members in key order. -/
def parse (text : String) : Except Fault Json :=
  (read text).toJson

end LedgerAgent.Json
