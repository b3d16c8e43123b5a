/-
Module: LedgerAgent.Json.Reading
Purpose: JSON text as far as it can be read, with its faults in their places.
Main exports: Json.Fault, Json.Reading, Json.Reading.fault?, Json.Reading.skipFault?,
  Json.toReading, Json.Reading.toJson
-/
import LedgerAgent.Json.Basic

namespace LedgerAgent.Json

/-- What can be wrong with JSON text. -/
inductive Fault where
  | endInValue
  | endInWord
  | endInNumber
  | endInString
  | endInArray
  | endInObject
  | expectedColon
  | expectedItemEnd
  | expectedMemberEnd
  | expectedIdent
  | expectedValue
  | expectedKey
  | trailingComma
  | trailingCharacters
  | invalidNumber
  | numberOutOfRange
  | controlCharacter
  | invalidEscape
  | loneSurrogate
  | unpairedEscape
  | invalidUnicode
  | tooDeep
deriving Repr, Inhabited, DecidableEq

def Fault.message : Fault → String
  | .endInValue => "EOF while parsing a value"
  | .endInWord => "EOF while parsing a value"
  | .endInNumber => "EOF while parsing a value"
  | .endInString => "EOF while parsing a string"
  | .endInArray => "EOF while parsing a list"
  | .endInObject => "EOF while parsing an object"
  | .expectedColon => "expected `:`"
  | .expectedItemEnd => "expected `,` or `]`"
  | .expectedMemberEnd => "expected `,` or `\x7d`"
  | .expectedIdent => "expected ident"
  | .expectedValue => "expected value"
  | .expectedKey => "key must be a string"
  | .trailingComma => "trailing comma"
  | .trailingCharacters => "trailing characters"
  | .invalidNumber => "invalid number"
  | .numberOutOfRange => "number out of range"
  | .controlCharacter =>
    "control character (\\u0000-\\u001F) found while parsing a string"
  | .invalidEscape => "invalid escape"
  | .loneSurrogate => "lone leading surrogate in hex escape"
  | .unpairedEscape => "unexpected end of hex escape"
  | .invalidUnicode => "invalid unicode code point"
  | .tooDeep => "recursion limit exceeded"

/-- A value as it was read.  A reader that wants only a part of it meets the
faults in the order of the text and stops at the first one in its way:

* `cut` ends an array or object whose text goes wrong behind the listed parts;
* `halt` stands for a value whose text goes wrong inside it;
* `spoilt` stands for a value that is well-formed but denotes nothing, such as a
  number that is too large; it is harmless to whoever skips it, unless the text
  `inside` it goes wrong as well;
* `keyless` stands for an object whose first member has something else than a
  string for its key, and holds that;
* `spoiltKey` stands for the value of a member whose key is well-formed but denotes
  no text; it is harmless to whoever skips the object around it. -/
inductive Reading where
  | null
  | bool (b : Bool)
  | number (n : Number)
  | string (s : String)
  | array (items : List Reading) (cut : Option Fault)
  | object (members : List (String × Reading)) (cut : Option Fault)
  | halt (fault : Fault)
  | spoilt (fault : Fault) (inside : Reading)
  | keyless (first : Reading)
  | spoiltKey (fault : Fault) (value : Reading)
deriving Repr, Inhabited

namespace Reading

mutual

/-- The first fault for a reader that wants the whole value. -/
def fault? : Reading → Option Fault
  | .null => none
  | .bool _ => none
  | .number _ => none
  | .string _ => none
  | .array items cut => (itemsFault? items).or cut
  | .object members cut => (membersFault? members).or cut
  | .halt f => some f
  | .spoilt f _ => some f
  | .keyless _ => some .expectedKey
  | .spoiltKey f _ => some f

def itemsFault? : List Reading → Option Fault
  | [] => none
  | item :: rest => item.fault?.or (itemsFault? rest)

def membersFault? : List (String × Reading) → Option Fault
  | [] => none
  | (_, value) :: rest => value.fault?.or (membersFault? rest)

end

/-- A fault as it looks to a reader that skips the array it ends. -/
def skippedItemCut : Fault → Fault
  | .trailingComma => .expectedValue
  | f => f

/-- A fault as it looks to a reader that skips the object it ends. -/
def skippedMemberCut : Fault → Fault
  | .trailingComma => .expectedKey
  | .endInValue => .endInObject
  | f => f

mutual

/-- The first fault for a reader that skips the value. -/
def skipFault? : Reading → Option Fault
  | .null => none
  | .bool _ => none
  | .number _ => none
  | .string _ => none
  | .array items cut => (itemsSkipFault? items).or (cut.map skippedItemCut)
  | .object members cut => (membersSkipFault? members).or (cut.map skippedMemberCut)
  | .halt .endInNumber => some .invalidNumber
  | .halt f => some f
  | .spoilt _ inside => inside.skipFault?
  | .keyless _ => some .expectedKey
  | .spoiltKey _ value => value.skipFault?

def itemsSkipFault? : List Reading → Option Fault
  | [] => none
  | item :: rest => item.skipFault?.or (itemsSkipFault? rest)

def membersSkipFault? : List (String × Reading) → Option Fault
  | [] => none
  | (_, value) :: rest => value.skipFault?.or (membersSkipFault? rest)

end

mutual

/-- The value that was read, faulty parts being taken for `null`.  Members stand
in key order and the last of several with one key counts. -/
def value : Reading → Json
  | .null => .null
  | .bool b => .bool b
  | .number n => .number n
  | .string s => .string s
  | .array items _ => .array (itemValues items)
  | .object members _ => .sorted (memberValues members)
  | .halt _ => .null
  | .spoilt _ _ => .null
  | .keyless _ => .null
  | .spoiltKey _ _ => .null

def itemValues : List Reading → List Json
  | [] => []
  | item :: rest => item.value :: itemValues rest

/-- The members with their values. -/
def memberValues : List (String × Reading) → List (String × Json)
  | [] => []
  | (key, value) :: rest => (key, value.value) :: memberValues rest

end

/-- The value that was read, or the first fault in it. -/
def toJson (r : Reading) : Except Fault Json :=
  match r.fault? with
  | some f => .error f
  | none => .ok r.value

end Reading

mutual

/-- A value as it is read from its own text. -/
def toReading : Json → Reading
  | .null => .null
  | .bool b => .bool b
  | .number n => .number n
  | .string s => .string s
  | .array items => .array (itemReadings items) none
  | .object members => .object (memberReadings members) none

def itemReadings : List Json → List Reading
  | [] => []
  | item :: rest => item.toReading :: itemReadings rest

def memberReadings : List (String × Json) → List (String × Reading)
  | [] => []
  | (key, value) :: rest => (key, value.toReading) :: memberReadings rest

end

end LedgerAgent.Json
