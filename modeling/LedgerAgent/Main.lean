/-
Module: LedgerAgent.Main
Purpose: The program: arguments, environment, clock and files of a real run.
Main exports: main
-/
import LedgerAgent.CommandLine
import Std.Time.DateTime.Timestamp

namespace LedgerAgent.Program

def now : IO Instant := do
  let nanos := (← Std.Time.Timestamp.now).toNanosecondsSinceUnixEpoch.val
  return ⟨Int64.ofInt (nanos.fdiv 1000000000), UInt32.ofNat (nanos.fmod 1000000000).toNat⟩

/-- Why a file cannot be read, by the system's error. -/
def fileFault : IO.Error → FileFault
  | .noFileOrDirectory .. => .missing
  | .permissionDenied .. => .forbidden
  | .inappropriateType _ 20 _ => .behindFile
  | .inappropriateType _ 21 _ => .folder
  | .invalidArgument _ 36 _ => .longName
  | e => .other (toString e)

/-- The contents of a file, or why it cannot be read. -/
def readFile (path : String) : IO (Except FileFault (List UInt8)) := do
  try return .ok (← IO.FS.readBinFile path).toList
  catch e => return .error (fileFault e)

/-- The environment variables that the program knows. -/
def variableNames : List String :=
  ["HEDERA_NETWORK", "HEDERA_ACCOUNT_ID", "HEDERA_PRIVATE_KEY", "HEDERA_PRIVATE_KEY_PATH",
    "HEDERA_PUBLIC_KEY", "HEDERA_CUSTODIAL", "HEDERA_RELAY_URL", "MIRROR_NODE_URL",
    "HTTP_TIMEOUT_SECS", "LOG_FORMAT"]

/-- The environment of this run.  The file that it may name is read only if no
variable holds the private key. -/
def environment : IO Environment := do
  let values : List (String × String) ← variableNames.filterMapM fun name => do
    return (← IO.getEnv name).map fun value => (name, value)
  let env : Environment := ⟨fun name => List.lookup name values, fun _ => .ok []⟩
  match env.get? "HEDERA_PRIVATE_KEY", env.get? "HEDERA_PRIVATE_KEY_PATH" with
  | none, some path =>
    let contents ← readFile path
    return { env with file := fun _ => contents }
  | _, _ => return env

/-- The program has no transport of its own: every request finds its connection
broken. -/
def unconnected (_ : List HttpRequest) (_ : HttpRequest) : HttpAnswer := .dropped

/-- The program has no decoder but its own, which gives no reasons. -/
def refusal : RefusalText := fun _ => "no key in a known encoding"

def logLine (e : LogEvent) : String :=
  e.level.name ++ " " ++ e.message ++ String.join (e.fields.map fun (k, v) => s!" {k}={v}")

end LedgerAgent.Program

open LedgerAgent in
/-- Run the program once; the log goes to the standard error. -/
def main (args : List String) : IO UInt32 := do
  let env ← Program.environment
  let reading ← Program.now
  let (ending, journal) :=
    CommandLine.run Program.refusal env args ⟨fun _ => reading, Program.unconnected⟩ Journal.empty
  for event in journal.wire.events.reverse do
    IO.eprintln (Program.logLine event)
  IO.print ending.output
  return ending.code.toUInt32
