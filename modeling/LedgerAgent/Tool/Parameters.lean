/-
Module: LedgerAgent.Tool.Parameters
Purpose: The parameters of a tool call, read from JSON text.
Main exports: ToolError, Parameters.given, Parameters.read, Parameters.decodeAmount,
  Parameters.decodeWholeNumber, Parameters.needed
-/
import LedgerAgent.Kit.Query

namespace LedgerAgent

open Json (Decoder Fields)

/-- Why a tool call fails. -/
inductive ToolError where
  | malformed
  | missingParameter (name : String)
  | invalidParameter (reason : String)
  | kit (cause : KitError)
deriving Repr, Inhabited

namespace ToolError

def message : ToolError → String
  | .malformed => "Invalid JSON input"
  | .missingParameter name => s!"Missing required parameter: {name}"
  | .invalidParameter reason => s!"Invalid parameter: {reason}"
  | .kit cause => cause.message

def code : ToolError → String
  | .malformed => "PARSE_ERROR"
  | .missingParameter _ => "MISSING_PARAMETER"
  | .invalidParameter _ => "INVALID_PARAMETER"
  | .kit cause => cause.code

/-- The error as an answer. -/
def answer (e : ToolError) : Json :=
  Json.sorted [("status", .string "error"), ("message", .string e.message),
    ("code", .string e.code)]

/-- The error of a parameter that is no good for a reason. -/
def invalid (name reason : String) : ToolError :=
  .invalidParameter s!"{name}: {reason}"

/-- The field that a message of a decoder complains of as missing, if it does. -/
def missingName? (message : String) : Option String := do
  let behind ← Text.dropLead "missing field `".toList message.toList
  let reversed ← Text.dropLead "`".toList behind.reverse
  return String.ofList reversed.reverse

/-- The error of parameters that could not be decoded, as the message tells it: one is missing
or one is not what it should be. -/
def ofDecode (e : Json.DecodeError) : ToolError :=
  match missingName? e.message with
  | some name => .missingParameter name
  | none => .invalidParameter e.message

end ToolError

namespace Parameters

/-- Whether a parameter was given: `null` and the empty text count as nothing. -/
def isGiven : Json → Bool
  | .null => false
  | .string s => !s.isEmpty
  | _ => true

/-- The parameters that a text gives, in key order.  Blank text gives none. -/
def given (input : String) : Except ToolError (List (String × Json)) :=
  let input := Text.trim input
  if input.isEmpty then .ok []
  else
    match Json.decodeText Json.decodeJson input with
    | .ok (.object members) => .ok (members.filter fun (_, value) => isGiven value)
    | _ => .error .malformed

/-- What decodes from the parameters that a text gives. -/
def readWith {α : Type} (d : Decoder α) (input : String) : Except ToolError α := do
  let members ← given input
  (Json.decodeValue d (.object members)).mapError ToolError.ofDecode

/-- The known parameters that a text gives; others are passed over. -/
def read {α : Type} (known : List String) (fields : Fields α) (input : String) :
    Except ToolError α :=
  readWith (Json.record "struct Parameters" known fields) input

/-- A parameter that the call cannot do without. -/
def needed {α : Type} (name : String) : Option α → Except ToolError α
  | some a => .ok a
  | none => .error (.missingParameter name)

/-- An amount as text: a number written out in full, or a text without the white
space around it. -/
def decodeAmount : Decoder (Option String) := fun origin r => do
  match ← Json.decodeJson origin r with
  | .null => .ok none
  | .number n => .ok (some n.plain)
  | .string s => .ok (some (Text.trim s))
  | other => .error (.refused s!"expected an amount as a number or string, got `{other.render}`")

/-- The error of a value that is no whole number. -/
def notWhole (shown : String) : Json.DecodeError :=
  .refused s!"expected a non-negative integer, got `{shown}`"

/-- A whole number of 64 bits, given as a number or as text. -/
def decodeWholeNumber : Decoder (Option UInt64) := fun origin r => do
  match ← Json.decodeJson origin r with
  | .null => .ok none
  | .number (.natural n) => .ok (some n)
  | .string s =>
    match Text.Numeral.uint64 (Text.trimmed s.toList) with
    | .ok n => .ok (some n)
    | .error _ => .error (notWhole s)
  | other => .error (notWhole other.render)

end Parameters

end LedgerAgent
