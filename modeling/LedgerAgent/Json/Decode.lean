/-
Module: LedgerAgent.Json.Decode
Purpose: Turning what was read into values of other types, fault by fault.
Main exports: Json.DecodeError, Json.Decoder, Json.Fields, Json.record, Json.unitVariant,
  Json.tagged, Json.decodeText, Json.decodeValue
-/
import LedgerAgent.Json.Reader
import LedgerAgent.Json.Printer
import LedgerAgent.Text.Quoted

namespace LedgerAgent.Json

/-- What stands where something else was expected. -/
inductive Found where
  | null
  | bool (b : Bool)
  | number (n : Number)
  | string (s : String)
  | sequence
  | map
deriving Repr, Inhabited

/-- What was found, in words. -/
def Found.describe : Found → String
  | .null => "null"
  | .bool true => "boolean `true`"
  | .bool false => "boolean `false`"
  | .number (.real x) => "floating point `" ++ Number.render (.real x) ++ "`"
  | .number n => "integer `" ++ n.render ++ "`"
  | .string s => "string " ++ Text.quoted s
  | .sequence => "sequence"
  | .map => "map"

/-- Why a reading is no value of the wanted type. -/
inductive DecodeError where
  | malformed (fault : Fault)
  | invalidType (found : Found) (expected : String)
  | invalidValue (found : Found) (expected : String)
  | invalidLength (length : Nat) (expected : String)
  | missingField (name : String)
  | duplicateField (name : String)
  | unknownVariant (name : String) (known : List String)
  | refused (reason : String)
deriving Repr, Inhabited

/-- A choice of names, each between backticks. -/
def oneOf : List String → String
  | [] => "there are no variants"
  | [a] => "expected `" ++ a ++ "`"
  | [a, b] => "expected `" ++ a ++ "` or `" ++ b ++ "`"
  | names => "expected one of " ++ ", ".intercalate (names.map fun n => "`" ++ n ++ "`")

def DecodeError.message : DecodeError → String
  | .malformed fault => fault.message
  | .invalidType found expected => s!"invalid type: {found.describe}, expected {expected}"
  | .invalidValue found expected => s!"invalid value: {found.describe}, expected {expected}"
  | .invalidLength length expected => s!"invalid length {length}, expected {expected}"
  | .missingField name => s!"missing field `{name}`"
  | .duplicateField name => s!"duplicate field `{name}`"
  | .unknownVariant name known => s!"unknown variant `{name}`, {oneOf known}"
  | .refused reason => reason

/-- Where a reading comes from, which decides how surplus items and misshapen
variants are reported: text that is decoded as it is read, a value that was read
before, or an object that was set aside until its tag was known. -/
inductive Origin where
  | text
  | value
  | setAside
deriving Repr, DecidableEq

/-- A way of turning readings into values. -/
abbrev Decoder (α : Type) := Origin → Reading → Except DecodeError α

/-- The error of a reading that is not what was expected. -/
def Reading.mismatch (expected : String) : Reading → DecodeError
  | .null => .invalidType .null expected
  | .bool b => .invalidType (.bool b) expected
  | .number n => .invalidType (.number n) expected
  | .string s => .invalidType (.string s) expected
  | .array _ _ => .invalidType .sequence expected
  | .object _ _ => .invalidType .map expected
  | .halt f => .malformed f
  | .spoilt f _ => .malformed f
  | .keyless _ => .invalidType .map expected
  | .spoiltKey f _ => .malformed f

def decodeString : Decoder String
  | _, .string s => .ok s
  | _, r => .error (r.mismatch "a string")

def decodeBool : Decoder Bool
  | _, .bool b => .ok b
  | _, r => .error (r.mismatch "a boolean")

def decodeUInt64 : Decoder UInt64
  | _, .number (.natural n) => .ok n
  | _, .number (.negative n) => .error (.invalidValue (.number (.negative n)) "u64")
  | _, r => .error (r.mismatch "u64")

def decodeUInt32 : Decoder UInt32
  | _, .number (.natural n) =>
    if n.toNat < Nat.pow 2 32 then .ok n.toUInt32
    else .error (.invalidValue (.number (.natural n)) "u32")
  | _, .number (.negative n) => .error (.invalidValue (.number (.negative n)) "u32")
  | _, r => .error (r.mismatch "u32")

def decodeInt64 : Decoder Int64
  | _, .number (.natural n) =>
    if n.toNat < Nat.pow 2 63 then .ok n.toInt64
    else .error (.invalidValue (.number (.natural n)) "i64")
  | _, .number (.negative n) => .ok n
  | _, r => .error (r.mismatch "i64")

/-- Any value, members in key order. -/
def decodeJson : Decoder Json
  | _, r => r.toJson.mapError .malformed

/-- A string that another reader takes over. -/
def decodeVia {ε α : Type} (parse : String → Except ε α) (message : ε → String) : Decoder α :=
  fun origin r => do
    let s ← decodeString origin r
    (parse s).mapError fun e => .refused (message e)

/-- A value or `null`. -/
def decodeOption {α : Type} (d : Decoder α) : Decoder (Option α)
  | _, .null => .ok none
  | origin, r => (d origin r).map some

def decodeItems {α : Type} (d : Decoder α) (origin : Origin) :
    List Reading → Except DecodeError (List α)
  | [] => .ok []
  | item :: rest => do
    let a ← d origin item
    let others ← decodeItems d origin rest
    return a :: others

def decodeList {α : Type} (d : Decoder α) : Decoder (List α)
  | origin, .array items cut => do
    let values ← decodeItems d origin items
    match cut with
    | some f => .error (.malformed f)
    | none => .ok values
  | _, r => .error (r.mismatch "a sequence")

/-!
A record is read from an object, or from an array of its fields in order.  The
fault that counts is the first in the text, whichever field it belongs to, so
each field reports its fault together with the place where it is met.
-/

/-- A part of a record, or its first fault and the place of that. -/
abbrev Placed (α : Type) := Except (Nat × DecodeError) α

/-- The shape in which a record is given, and how to speak of the record. -/
structure Parts where
  origin : Origin
  /-- The record's name for a message about its length. -/
  name : String
  /-- The number of its fields. -/
  size : Nat
  /-- The members of an object, or the items of an array. -/
  given : List (String × Reading) ⊕ List Reading
  cut : Option Fault

/-- The text after which a record is complained about by its length. -/
def Parts.expectation (parts : Parts) : String :=
  s!"{parts.name} with {parts.size} " ++ (if parts.size = 1 then "element" else "elements")

/-- A reader of some fields of a record. -/
structure Fields (α : Type) where
  run : Parts → Placed α

namespace Fields

/-- Of two faults the one that is met first, or else the one declared first. -/
def earlier (a b : Nat × DecodeError) : Nat × DecodeError :=
  if b.1 < a.1 then b else a

/-- Both parts, or the fault that is met first. -/
def both {α β : Type} : Placed (α → β) → Placed α → Placed β
  | .ok f, .ok a => .ok (f a)
  | .error e, .ok _ => .error e
  | .ok _, .error e => .error e
  | .error e, .error e' => .error (earlier e e')

instance : Applicative Fields where
  pure a := ⟨fun _ => .ok a⟩
  seq f x := ⟨fun parts => both (f.run parts) ((x ()).run parts)⟩

/-- The values of the members with a key, with their places. -/
def occurrences (key : String) (place : Nat) :
    List (String × Reading) → List (Nat × Reading)
  | [] => []
  | (k, r) :: rest =>
    if k = key then (place, r) :: occurrences key (place + 1) rest
    else occurrences key (place + 1) rest

/-- The field of a name and index.  `whenAbsent` is its value if an object does
not have it, `whenShort` if an array ends before it. -/
def field {α : Type} (index : Nat) (name : String) (d : Decoder α)
    (whenAbsent whenShort : Option α) : Fields α :=
  ⟨fun parts =>
    match parts.given with
    | .inl members =>
      match occurrences name 0 members with
      | [] =>
        match whenAbsent with
        | some a => .ok a
        | none => .error (members.length + 1, .missingField name)
      | (place, r) :: others =>
        match d parts.origin r, others with
        | .error e, _ => .error (place, e)
        | .ok a, [] => .ok a
        | .ok _, (again, _) :: _ => .error (again, .duplicateField name)
    | .inr items =>
      match items[index]?, parts.cut, whenShort with
      | some r, _, _ => (d parts.origin r).mapError fun e => (index, e)
      | none, some f, _ => .error (index, .malformed f)
      | none, none, some a => .ok a
      | none, none, none =>
        .error (index, .invalidLength index parts.expectation)⟩

/-- A field that must be there. -/
def required {α : Type} (index : Nat) (name : String) (d : Decoder α) : Fields α :=
  field index name d none none

/-- A field that may be absent from an object and may be `null` anywhere. -/
def optional {α : Type} (index : Nat) (name : String) (d : Decoder α) : Fields (Option α) :=
  field index name (decodeOption d) (some none) none

/-- A field that may be `null` and may be absent from either shape. -/
def omissible {α : Type} (index : Nat) (name : String) (d : Decoder α) : Fields (Option α) :=
  field index name (decodeOption d) (some none) (some none)

/-- A field that has a value of its own when it is absent. -/
def defaulted {α : Type} (index : Nat) (name : String) (d : Decoder α) (value : α) :
    Fields α :=
  field index name d (some value) (some value)

/-- The fault of a member that belongs to no field: that of its key, or one that
even a reader that skips its value meets. -/
def strangerFault? : Reading → Option Fault
  | .spoiltKey f _ => some f
  | r => r.skipFault?

/-- The first fault in members whose keys belong to no field. -/
def strangersFault? (known : List String) (place : Nat) :
    List (String × Reading) → Option (Nat × Fault)
  | [] => none
  | (key, r) :: rest =>
    if known.contains key then strangersFault? known (place + 1) rest
    else
      match strangerFault? r with
      | some f => some (place, f)
      | none => strangersFault? known (place + 1) rest

/-- The items behind the last field of a record that is given as an array. -/
def surplus (parts : Parts) (items : List Reading) : Placed Unit :=
  let place := parts.size
  match parts.origin, items.drop parts.size, parts.cut with
  | _, [], none => .ok ()
  | .text, [], some .trailingComma => .error (place, .malformed .trailingComma)
  | .text, [], some .endInArray => .error (place, .malformed .endInArray)
  | .text, _, _ => .error (place, .malformed .trailingCharacters)
  | .value, _, _ => .error (place, .invalidLength items.length "fewer elements in array")
  | .setAside, _, _ =>
    .error (place, .invalidLength items.length
      (if parts.size = 1 then "1 element in sequence"
        else s!"{parts.size} elements in sequence"))

/-- Everything that belongs to no field: members of other names, what ends the
text of an object, and surplus items. -/
def remainder (known : List String) : Fields Unit :=
  ⟨fun parts =>
    match parts.given with
    | .inl members =>
      match strangersFault? known 0 members, parts.cut with
      | some (place, f), _ => .error (place, .malformed f)
      | none, some f => .error (members.length, .malformed f)
      | none, none => .ok ()
    | .inr items => surplus parts items⟩

/-- The value of all fields together, and nothing else being there. -/
def close {α : Type} (known : List String) (fields : Fields α) (parts : Parts) :
    Except DecodeError α :=
  (both (both (.ok fun a _ => a) (fields.run parts)) ((remainder known).run parts)).mapError
    Prod.snd

end Fields

/-- A record from an object or from an array of its fields in order.  `name` says
what it is, as in `struct Topic`. -/
def record {α : Type} (name : String) (known : List String) (fields : Fields α) : Decoder α
  | origin, .object members cut =>
    fields.close known ⟨origin, name, known.length, .inl members, cut⟩
  | origin, .array items cut =>
    fields.close known ⟨origin, name, known.length, .inr items, cut⟩
  | _, .keyless _ => .error (.malformed .expectedKey)
  | _, r => .error (r.mismatch name)

/-- The value of a name in a table. -/
def lookupVariant {α : Type} (variants : List (String × α)) (name : String) :
    Except DecodeError α :=
  match variants.lookup name with
  | some a => .ok a
  | none => .error (.unknownVariant name (variants.map Prod.fst))

/-- The value of the name that a reading holds. -/
def decodeVariantName {α : Type} (variants : List (String × α)) : Reading → Except DecodeError α
  | .string s => lookupVariant variants s
  | r => .error (r.mismatch "variant identifier")

/-- `null`, and for an object set aside also an empty object. -/
def decodeUnit : Decoder Unit
  | _, .null => .ok ()
  | .setAside, .object [] none => .ok ()
  | _, r => .error (r.mismatch "unit")

/-- One of several names, written as a string or as the key of an object whose
one member is `null`. -/
def unitVariant {α : Type} (variants : List (String × α)) : Decoder α
  | _, .string s => lookupVariant variants s
  | .text, .keyless first => .error (first.mismatch "variant identifier")
  | .text, .object ((_, .spoiltKey f _) :: _) _ => .error (.malformed f)
  | .text, .object ((name, r) :: others) cut => do
    let a ← lookupVariant variants name
    match r with
    | .halt .endInObject => .error (.malformed .endInObject)
    | r =>
      decodeUnit .text r
      match others, cut with
      | [], none => .ok a
      | [], some .endInArray => .error (.malformed .endInObject)
      | [], some .endInObject => .error (.malformed .endInObject)
      | _, _ => .error (.malformed .expectedValue)
  | .text, .object [] (some .endInObject) => .error (.malformed .endInValue)
  | .text, .object [] (some f) => .error (.malformed f)
  | .text, .object [] none => .error (.malformed .expectedValue)
  | .text, .halt .endInValue => .error (.malformed .endInValue)
  | .text, .halt .endInString => .error (.malformed .endInString)
  | .text, .halt .controlCharacter => .error (.malformed .controlCharacter)
  | .text, .halt .invalidEscape => .error (.malformed .invalidEscape)
  | .text, .spoilt .numberOutOfRange _ => .error (.malformed .expectedValue)
  | .text, .spoilt f _ => .error (.malformed f)
  | .text, _ => .error (.malformed .expectedValue)
  | origin, .object [(name, r)] _ => do
    let a ← lookupVariant variants name
    decodeUnit origin r
    return a
  | _, .object _ _ => .error (.invalidValue .map "map with a single key")
  | _, r => .error (r.mismatch "string or map")

/-- What a tagged object holds: the variant that its tag names and the rest of
it, set aside. -/
structure Tagged (α : Type) where
  variant : α
  content : Reading

/-- The tag among members and the others, which are read in full.  The first
fault in the text counts, be it in the tag or in a member beside it. -/
def splitTag {α : Type} (tag : String) (variants : List (String × α)) (cut : Option Fault) :
    Option α → List (String × Reading) →
      List (String × Reading) → Except DecodeError (Tagged α)
  | found, kept, [] =>
    match cut, found with
    | some f, _ => .error (.malformed f)
    | none, none => .error (.missingField tag)
    | none, some a => .ok ⟨a, .object kept.reverse none⟩
  | found, kept, (key, r) :: rest =>
    if key = tag then
      match found with
      | some _ => .error (.duplicateField tag)
      | none =>
        match decodeVariantName variants r with
        | .error e => .error e
        | .ok a => splitTag tag variants cut (some a) kept rest
    else
      match r.fault? with
      | some f => .error (.malformed f)
      | none => splitTag tag variants cut found ((key, r) :: kept) rest

/-- An object that names its variant in a member `tag`, or an array that begins
with that name; `name` says what it is. -/
def tagged {α : Type} (name tag : String) (variants : List (String × α)) :
    Reading → Except DecodeError (Tagged α)
  | .object members cut => splitTag tag variants cut none [] members
  | .keyless _ => .error (.malformed .expectedKey)
  | .array [] (some f) => .error (.malformed f)
  | .array [] none => .error (.missingField tag)
  | .array (first :: rest) cut => do
    let a ← decodeVariantName variants first
    match (Reading.itemsFault? rest).or cut with
    | some f => .error (.malformed f)
    | none => .ok ⟨a, .array rest none⟩
  | r => .error (r.mismatch name)

/-- The value of a document of the wanted type; nothing may follow it. -/
def Document.decode {α : Type} (d : Decoder α) (document : Document) : Except DecodeError α := do
  let a ← d .text document.root
  match document.trailing with
  | some f => .error (.malformed f)
  | none => .ok a

/-- The value of a text. -/
def decodeText {α : Type} (d : Decoder α) (text : String) : Except DecodeError α :=
  (read text).decode d

/-- The value of bytes. -/
def decodeBytes {α : Type} (d : Decoder α) (bs : List UInt8) : Except DecodeError α :=
  (readBytes bs).decode d

/-- The value of a JSON value. -/
def decodeValue {α : Type} (d : Decoder α) (value : Json) : Except DecodeError α :=
  d .value value.toReading

end LedgerAgent.Json
