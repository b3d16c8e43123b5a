/-
Module: LedgerAgent.CommandLine
Purpose: The command line: what its arguments ask for, and what that prints.
Main exports: CommandLine.parse, CommandLine.run, Demand, Invocation, Ending
-/
import LedgerAgent.Config
import LedgerAgent.Tool.Registry

namespace LedgerAgent

/-- A job for the program. -/
inductive Invocation where
  | list
  | call (tool input : String) (mode : Option Bool)
deriving Repr, Inhabited, DecidableEq

/-- What arguments ask for: a job, a text to be shown, or nothing that makes sense. -/
inductive Demand where
  | run (job : Invocation)
  | tell (text : String)
  | misuse
deriving Repr, Inhabited, DecidableEq

/-- How the program ends: its exit code and what it has printed. -/
structure Ending where
  code : Nat
  output : String
deriving Repr, Inhabited, DecidableEq

namespace CommandLine

/-- The program's name and version. -/
def version : String := "franky-agent-kit 0.1.0\n"

/-- How to use the program. -/
def help : String := LedgerTool.lines
  ["Run Hedera agent tools from the command line",
    "",
    "Usage: franky-agent-kit <COMMAND>",
    "",
    "Commands:",
    "  list  Print every tool definition as JSON",
    "  call  Invoke one tool and print its JSON output",
    "  help  Print this message or the help of the given subcommand(s)",
    "",
    "Options:",
    "  -h, --help     Print help",
    "  -V, --version  Print version"]

def listHelp : String := LedgerTool.lines
  ["Print every tool definition as JSON",
    "",
    "Usage: franky-agent-kit list",
    "",
    "Options:",
    "  -h, --help  Print help"]

def callHelp : String := LedgerTool.lines
  ["Invoke one tool and print its JSON output",
    "",
    "Usage: franky-agent-kit call [OPTIONS] <TOOL> [INPUT]",
    "",
    "Arguments:",
    "  <TOOL>   Tool name, e.g. hedera_get_hbar_balance",
    "  [INPUT]  Tool input as a JSON object [default: \x7b\x7d]",
    "",
    "Options:",
    "      --custodial      Sign and execute with the operator key",
    "      --non-custodial  Return unsigned transaction bytes instead of executing",
    "  -h, --help           Print help"]

def helpHelp : String := LedgerTool.lines
  ["Print this message or the help of the given subcommand(s)",
    "",
    "Usage: franky-agent-kit help [COMMAND]...",
    "",
    "Arguments:",
    "  [COMMAND]...  Print help for the subcommand(s)"]

/-- Whether an argument is a plain one: it does not begin with `-`, or is nothing
else. -/
def isPlain (arg : String) : Bool :=
  arg == "-" || !"-".isPrefixOf arg

/-- Whether an argument asks for help, alone or as the first of several letters. -/
def wantsHelp (arg : String) : Bool :=
  arg == "--help" || "-h".isPrefixOf arg

def wantsVersion (arg : String) : Bool :=
  arg == "--version" || "-V".isPrefixOf arg

def parseList : List String → Demand
  | [] => .run .list
  | ["--"] => .run .list
  | arg :: _ => if wantsHelp arg then .tell listHelp else .misuse

/-- What was met so far of the arguments behind `call`. -/
structure CallArguments where
  plain : List String
  custodial : Bool
  nonCustodial : Bool
deriving Repr, Inhabited, DecidableEq

/-- The job that the arguments make: a tool, perhaps its input, and at most one of the
two modes. -/
def CallArguments.demand (met : CallArguments) : Demand :=
  if met.custodial && met.nonCustodial then .misuse
  else
    let mode :=
      if met.custodial then some true else if met.nonCustodial then some false else none
    match met.plain with
    | [tool] => .run (.call tool "\x7b\x7d" mode)
    | [tool, input] => .run (.call tool input mode)
    | _ => .misuse

/-- One more plain argument; a third is one too many. -/
def CallArguments.add? (met : CallArguments) (arg : String) : Option CallArguments :=
  if met.plain.length < 2 then some { met with plain := met.plain ++ [arg] } else none

/-- What the arguments behind `call` ask for.  After `--` all are plain; a mode may not
be given twice; the first thing that asks for help or is wrong decides. -/
def parseCall (met : CallArguments) (allPlain : Bool) : List String → Demand
  | [] => met.demand
  | arg :: rest =>
    if allPlain || isPlain arg then
      match met.add? arg with
      | some met => parseCall met allPlain rest
      | none => .misuse
    else if arg == "--" then parseCall met true rest
    else if wantsHelp arg then .tell callHelp
    else if arg == "--custodial" && !met.custodial then
      parseCall { met with custodial := true } allPlain rest
    else if arg == "--non-custodial" && !met.nonCustodial then
      parseCall { met with nonCustodial := true } allPlain rest
    else .misuse

def parseHelp : List String → Demand
  | [] => .tell help
  | ["list"] => .tell listHelp
  | ["call"] => .tell callHelp
  | ["help"] => .tell helpHelp
  | _ => .misuse

/-- What the program's arguments ask for. -/
def parse : List String → Demand
  | "list" :: rest => parseList rest
  | "call" :: rest => parseCall ⟨[], false, false⟩ false rest
  | "help" :: rest => parseHelp rest
  | arg :: _ =>
    if wantsHelp arg then .tell help else if wantsVersion arg then .tell version else .misuse
  | [] => .misuse

/-- The end of a program that met an error after its arguments were understood. -/
def failed : Ending := ⟨1, ""⟩

/-- Do a job with the ledger's tools over a kit. -/
def perform (kit : Kit) (job : Invocation) : Session Ending := do
  let registry ← (Registry.ofLedger kit).inSession
  match job with
  | .list => return ⟨0, registry.definitions.pretty ++ "\n"⟩
  | .call tool input mode =>
    match registry.get? tool with
    | none => return failed
    | some tool => return ⟨0, (← tool.call mode input) ++ "\n"⟩

/-- The program: what it prints and how it ends, given its environment and
arguments. -/
def run (refusal : RefusalText) (env : Environment) (args : List String) : Session Ending :=
  match parse args with
  | .misuse => return ⟨2, ""⟩
  | .tell text => return ⟨0, text⟩
  | .run job =>
    match Config.read refusal env with
    | .error e => do
      (Exchange.log .error "Invalid configuration" [("error", e.message)]).inSession
      return failed
    | .ok config => do
      match ← (Kit.ofConfig config).inSession with
      | .error e =>
        (Exchange.log .error "Failed to set up the agent kit" [("error", e.message)]).inSession
        return failed
      | .ok kit => perform kit job

end CommandLine

end LedgerAgent
