/-
Module: LedgerAgent.Config
Purpose: The settings of a run, read from environment variables.
Main exports: Environment, Config, Config.read, LogFormat, ConfigError, Kit.ofConfig
-/
import LedgerAgent.Kit.Basic

namespace LedgerAgent

/-- Why a run cannot be set up. -/
inductive ConfigError where
  | missing (name : String)
  | invalid (name reason : String)
  | key (cause : KeyError)
  | missingPublicKey
deriving Repr, Inhabited, DecidableEq

def ConfigError.message : ConfigError → String
  | .missing name => s!"Missing required environment variable {name}"
  | .invalid name reason => s!"Invalid value for {name}: {reason}"
  | .key cause => s!"Failed to load operator key: {cause.message}"
  | .missingPublicKey => "No public key: set HEDERA_PUBLIC_KEY or provide a private key"

/-- The variables of a run, and the files that they may name: the bytes of a file, or
why it cannot be read. -/
structure Environment where
  lookup : String → Option String
  file : String → Except FileFault (List UInt8)

/-- The value of a variable without the white space around it; a blank one counts as
unset. -/
def Environment.get? (env : Environment) (name : String) : Option String :=
  ((env.lookup name).map Text.trim).filter fun value => !value.isEmpty

/-- The value of a variable that must be set. -/
def Environment.required (env : Environment) (name : String) : Except ConfigError String :=
  match env.get? name with
  | some value => .ok value
  | none => .error (.missing name)

inductive LogFormat where
  | json
  | pretty
deriving Repr, Inhabited, DecidableEq

namespace LogFormat

def name : LogFormat → String
  | .json => "json"
  | .pretty => "pretty"

/-- The format that a name means, in any letter case; else what is wrong with it. -/
def parse (text : String) : Except String LogFormat :=
  match Text.asciiLower text with
  | "json" => .ok .json
  | "pretty" => .ok .pretty
  | other => .error s!"expected `json` or `pretty`, got `{other}`"

/-- The format that the environment asks for. -/
def read (env : Environment) : Except ConfigError LogFormat :=
  match env.get? "LOG_FORMAT" with
  | none => .ok .pretty
  | some text => (parse text).mapError (ConfigError.invalid "LOG_FORMAT")

end LogFormat

/-- The settings of a run. -/
structure Config where
  network : Network
  account : AccountId
  privateKey : Option PrivateKey
  publicKey : PublicKey
  custodial : Bool
  relayUrl : String
  mirrorUrl : Option String
  timeoutSeconds : UInt64
  logFormat : LogFormat

namespace Config

/-- A truth value; else what is wrong with it. -/
def parseFlag (text : String) : Except String Bool :=
  match text with
  | "true" => .ok true
  | "false" => .ok false
  | _ => .error "provided string was not `true` or `false`"

/-- A number of seconds; else what is wrong with it. -/
def parseSeconds (text : String) : Except String UInt64 :=
  (Text.Numeral.uint64 text.toList).mapError Text.NumeralError.message

/-- A value that is read if the variable is set. -/
def optional {α : Type} (env : Environment) (name : String)
    (parse : String → Except String α) : Except ConfigError (Option α) :=
  match env.get? name with
  | none => .ok none
  | some text => ((parse text).mapError (ConfigError.invalid name)).map some

/-- The text of a key in a variable: two characters `\n` stand for an end of line. -/
def unfolded (text : String) : String :=
  String.ofList (Text.replaceAll ['\\', 'n'] ['\n'] text.toList)

/-- The private key that a variable holds, in one of its spellings. -/
def parseKey (refusal : RefusalText) (text : String) : Except KeyError PrivateKey :=
  if "-----BEGIN".isPrefixOf text then PrivateKey.ofPem refusal (Text.bytes (unfolded text))
  else PrivateKey.parse text

/-- The private key that a file holds. -/
def loadKey (refusal : RefusalText) (env : Environment) (path : String) :
    Except KeyError PrivateKey :=
  match env.file path with
  | .error fault => .error (.unreadable path fault)
  | .ok contents => PrivateKey.ofPem refusal contents

/-- The private key, if there is one; a file counts only if no variable holds a key. -/
def readPrivateKey (refusal : RefusalText) (env : Environment) :
    Except ConfigError (Option PrivateKey) :=
  match env.get? "HEDERA_PRIVATE_KEY", env.get? "HEDERA_PRIVATE_KEY_PATH" with
  | some text, _ => ((parseKey refusal text).mapError ConfigError.key).map some
  | none, some path => ((loadKey refusal env path).mapError ConfigError.key).map some
  | none, none => .ok none

/-- The public key: the one that is set, or else that of the private key. -/
def readPublicKey (env : Environment) (privateKey : Option PrivateKey) :
    Except ConfigError PublicKey := do
  match ← optional env "HEDERA_PUBLIC_KEY"
      fun text => (PublicKey.parse text).mapError KeyError.message with
  | some key => .ok key
  | none =>
    match privateKey with
    | some key => .ok key.publicKey
    | none => .error .missingPublicKey

/-- The account that acts. -/
def readAccount (env : Environment) : Except ConfigError AccountId := do
  let text ← env.required "HEDERA_ACCOUNT_ID"
  (EntityId.parse text).mapError fun e => .invalid "HEDERA_ACCOUNT_ID" e.message

/-- The settings that an environment makes.  The faults are looked for in this order:
network, account, private key, public key, who signs, timeout, log format, relay. -/
def read (refusal : RefusalText) (env : Environment) : Except ConfigError Config := do
  let network ← optional env "HEDERA_NETWORK"
    fun text => (Network.parse text).mapError NetworkError.message
  let account ← readAccount env
  let privateKey ← readPrivateKey refusal env
  let publicKey ← readPublicKey env privateKey
  let custodial ← optional env "HEDERA_CUSTODIAL" parseFlag
  let timeoutSeconds ← optional env "HTTP_TIMEOUT_SECS" parseSeconds
  let logFormat ← LogFormat.read env
  let relayUrl ← env.required "HEDERA_RELAY_URL"
  return {
    network := network.getD .testnet
    account := account
    privateKey := privateKey
    publicKey := publicKey
    custodial := custodial.getD false
    relayUrl := relayUrl
    mirrorUrl := env.get? "MIRROR_NODE_URL"
    timeoutSeconds := timeoutSeconds.getD 15
    logFormat := logFormat }

/-- The operator that the settings name: the account, if there is a private key. -/
def operator (config : Config) : Option Operator :=
  config.privateKey.map fun key => ⟨config.account, key⟩

end Config

/-- The kit that the settings describe: a relay, a mirror node (the network's own if
none is named), the account and its key. -/
def Kit.ofConfig (config : Config) : Exchange (Except KitError Kit) :=
  match Relay.create config.network config.relayUrl config.operator,
      MirrorNode.create (config.mirrorUrl.getD config.network.mirrorUrl) with
  | .error e, _ => return .error (.client e)
  | .ok _, .error e => return .error (.mirrorNode e)
  | .ok relay, .ok mirror => do
    let kit ← Kit.create relay.client mirror config.account config.publicKey
    return .ok (← kit.withMode config.custodial)

end LedgerAgent
