/-
Module: LedgerAgent.Proofs.Config.Environment
Purpose: What the variables of an environment mean, one by one: their values count without the
  white space around them, and each is read as what it spells or refused.
Main exports: Environment.normalized, Environment.get?_normalized, Environment.keyReading?,
  Environment.Gives, Config.read_normalized, Config.read_of_key, Config.optional_gives
-/
import LedgerAgent.Config
import LedgerAgent.Proofs.Identifier.Spelling
import LedgerAgent.Proofs.Json.Canonical

namespace LedgerAgent

open Text Text.Numeral
open Json (bind_eq_ok bind_eq_error map_eq_ok map_eq_error mapError_eq_ok mapError_eq_error)

/-! ### The environment with its values trimmed -/

namespace Environment

variable {env : Environment} {name text : String}

/-- The environment in which every value is trimmed and every blank one is unset. -/
def normalized (env : Environment) : Environment where
  lookup name := (env.lookup name).bind fun value =>
    if trim value = "" then none else some (trim value)
  file := env.file

/-- A variable counts with the white space around its value set aside, unless nothing is left. -/
theorem get?_eq_some_iff :
    env.get? name = some text ↔
      (∃ value, env.lookup name = some value ∧ trim value = text) ∧ text ≠ "" := by
  simp only [get?, Option.filter_eq_some_iff, Option.map_eq_some_iff, Bool.not_eq_true',
    String.isEmpty_eq_false_iff]

theorem trim_of_get? (set : env.get? name = some text) : trim text = text := by
  obtain ⟨⟨value, -, rfl⟩, -⟩ := get?_eq_some_iff.1 set
  exact trim_trim value

/-- In a normalized environment stands what counted before. -/
theorem lookup_normalized (env : Environment) (name : String) :
    env.normalized.lookup name = env.get? name := by
  ext text
  simp only [normalized, get?_eq_some_iff, Option.bind_eq_some_iff]
  grind

/-- Normal values are what they are taken for. -/
theorem get?_normalized (env : Environment) (name : String) :
    env.normalized.get? name = env.get? name := by
  ext text
  rw [get?_eq_some_iff, lookup_normalized]
  constructor
  · rintro ⟨⟨value, set, rfl⟩, -⟩
    rwa [trim_of_get? set]
  · intro set
    exact ⟨⟨text, set, trim_of_get? set⟩, (get?_eq_some_iff.1 set).2⟩

end Environment

namespace Config

variable {refusal : RefusalText} {env env' : Environment}

/-- Two environments make the same settings if all variables but the one that names a key file
have the same values in them, and they hold the same private key. -/
theorem read_congr
    (same : ∀ name, name ≠ "HEDERA_PRIVATE_KEY_PATH" → env'.get? name = env.get? name)
    (key : readPrivateKey refusal env' = readPrivateKey refusal env) :
    read refusal env' = read refusal env := by
  simp only [read, readAccount, readPublicKey, LogFormat.read, optional, Environment.required, key,
    same "HEDERA_NETWORK" (by decide), same "HEDERA_ACCOUNT_ID" (by decide),
    same "HEDERA_PUBLIC_KEY" (by decide), same "HEDERA_CUSTODIAL" (by decide),
    same "HTTP_TIMEOUT_SECS" (by decide), same "LOG_FORMAT" (by decide),
    same "HEDERA_RELAY_URL" (by decide), same "MIRROR_NODE_URL" (by decide)]

/-- White space and empty values make no difference to what is read. -/
theorem read_normalized (refusal : RefusalText) (env : Environment) :
    read refusal env.normalized = read refusal env := by
  refine read_congr (fun name _ => env.get?_normalized name) ?_
  simp only [readPrivateKey, env.get?_normalized]
  rfl

/-- Where a variable holds the private key, nothing depends on key files and their names. -/
theorem read_of_key {text : String} (set : env.get? "HEDERA_PRIVATE_KEY" = some text)
    (same : ∀ name, name ≠ "HEDERA_PRIVATE_KEY_PATH" → env'.get? name = env.get? name) :
    read refusal env' = read refusal env := by
  refine read_congr same ?_
  simp only [readPrivateKey, same "HEDERA_PRIVATE_KEY" (by decide), set]

end Config

namespace Environment

/-- What becomes of the private key: of the value of its variable, or else of the file that a
variable names. -/
def keyReading? (refusal : RefusalText) (env : Environment) :
    Option (Except KeyError PrivateKey) :=
  match env.get? "HEDERA_PRIVATE_KEY" with
  | some text => some (Config.parseKey refusal text)
  | none => (env.get? "HEDERA_PRIVATE_KEY_PATH").map (Config.loadKey refusal env)

end Environment

/-! ### Values of settings -/

/-- Text without white space around it is parsed as an entity exactly if it spells that. -/
theorem EntityId.parse_iff_of_trim {kind : EntityKind} {text : String} {id : EntityId kind}
    (solid : trim text = text) : parse text = .ok id ↔ Spells text.toList id := by
  have solid' : trimmed text.toList = text.toList := by
    rw [← String.toList_ofList (l := trimmed text.toList)]
    exact congrArg String.toList solid
  rw [parse_eq_ok_iff_ofChars?, ofChars?_eq_some_iff, solid']

/-- A text is refused, for the one reason that there is, if it means nothing. -/
theorem refused_iff {ε α : Type} {result : Except ε α} {Means : α → Prop} {e reason : ε}
    (means : ∀ a, result = .ok a ↔ Means a) (reasons : ∀ e, result = .error e → reason = e) :
    result = .error e ↔ (∀ a, ¬ Means a) ∧ reason = e := by
  constructor
  · rintro rfl
    refine ⟨fun a meant => ?_, reasons e rfl⟩
    cases (means a).2 meant
  · rintro ⟨meaningless, rfl⟩
    cases result with
    | ok a => exact absurd ((means a).1 rfl) (meaningless a)
    | error e => rw [reasons e rfl]

namespace Network

theorem lookup_table_iff {name : String} {network : Network} :
    table.lookup name = some network ↔ name = network.name := by
  constructor
  · intro found
    have among := Json.mem_of_lookup found
    simp only [table, List.mem_cons, List.not_mem_nil, or_false, Prod.mk.injEq] at among
    rcases among with ⟨rfl, rfl⟩ | ⟨rfl, rfl⟩ | ⟨rfl, rfl⟩ <;> rfl
  · rintro rfl
    cases network <;> rfl

/-- A network is known by its name in any letter case, white space around it or not. -/
theorem parse_eq_ok_iff {text : String} {network : Network} :
    parse text = .ok network ↔ asciiLower (trim text) = network.name := by
  rw [← lookup_table_iff, parse]
  cases table.lookup (asciiLower (trim text)) <;> simp

theorem parse_eq_error_iff {text : String} {e : NetworkError} :
    parse text = .error e ↔ (∀ network : Network, asciiLower (trim text) ≠ network.name) ∧
      NetworkError.mk (asciiLower (trim text)) = e := by
  refine refused_iff (fun _ => parse_eq_ok_iff) fun e refused => ?_
  rw [parse] at refused
  split at refused
  · cases refused
  · exact Except.error.inj refused

end Network

namespace LogFormat

theorem parse_eq_ok_iff {text : String} {format : LogFormat} :
    parse text = .ok format ↔ asciiLower text = format.name := by
  rw [parse]
  split
  · next json => cases format <;> simp [json, name]
  · next pretty => cases format <;> simp [pretty, name]
  · next json pretty =>
    cases format with
    | json => simpa [name] using json
    | pretty => simpa [name] using pretty

theorem parse_eq_error_iff {text reason : String} :
    parse text = .error reason ↔ (∀ format : LogFormat, asciiLower text ≠ format.name) ∧
      s!"expected `json` or `pretty`, got `{asciiLower text}`" = reason := by
  refine refused_iff (fun _ => parse_eq_ok_iff) fun e refused => ?_
  rw [parse] at refused
  split at refused
  · cases refused
  · cases refused
  · exact Except.error.inj refused

end LogFormat

namespace Config

def flagName : Bool → String
  | true => "true"
  | false => "false"

theorem parseFlag_eq_ok_iff {text : String} {flag : Bool} :
    parseFlag text = .ok flag ↔ text = flagName flag := by
  unfold parseFlag
  split
  · cases flag <;> simp [flagName]
  · cases flag <;> simp [flagName]
  · next yes no =>
    cases flag with
    | true => simpa [flagName] using yes
    | false => simpa [flagName] using no

theorem parseFlag_eq_error_iff {text reason : String} :
    parseFlag text = .error reason ↔ (∀ flag, text ≠ flagName flag) ∧
      "provided string was not `true` or `false`" = reason := by
  refine refused_iff (fun _ => parseFlag_eq_ok_iff) fun e refused => ?_
  unfold parseFlag at refused
  split at refused
  · cases refused
  · cases refused
  · exact Except.error.inj refused

end Config

/-! ### Steps -/

/-- What the environment says of a setting: what its variable means, or else the default. -/
def Environment.Gives {α : Type} (env : Environment) (name : String) (means : String → α → Prop)
    (default a : α) : Prop :=
  match env.get? name with
  | some text => means text a
  | none => a = default

namespace Config

section

variable {α : Type} {env : Environment} {name : String} {parse : String → Except String α}
  {means : String → α → Prop} {e : ConfigError}

/-- A setting with a default gives what its text means, or the default where it is not set. -/
theorem optional_gives {default a : α}
    (reads : ∀ text, env.get? name = some text → (parse text = .ok a ↔ means text a)) :
    (∃ choice, optional env name parse = .ok choice ∧ choice.getD default = a) ↔
      env.Gives name means default a := by
  rw [optional, Environment.Gives]
  cases set : env.get? name with
  | none => simp [eq_comm]
  | some text => simp [map_eq_ok, mapError_eq_ok, ← reads text set]

/-- A setting with a default fails only by a text that is set and means nothing. -/
theorem optional_eq_error_iff :
    optional env name parse = .error e ↔
      ∃ text reason, env.get? name = some text ∧ parse text = .error reason ∧
        .invalid name reason = e := by
  rw [optional]
  cases env.get? name with
  | none => simp
  | some text => simp [map_eq_error, mapError_eq_error]

theorem required_eq_ok_iff {text : String} :
    env.required name = .ok text ↔ env.get? name = some text := by
  rw [Environment.required]
  cases env.get? name <;> simp

theorem required_eq_error_iff :
    env.required name = .error e ↔ env.get? name = none ∧ .missing name = e := by
  rw [Environment.required]
  cases env.get? name <;> simp

end

variable {refusal : RefusalText} {env : Environment} {e : ConfigError}

/-- The account is read exactly if it is set to what spells it. -/
theorem readAccount_eq_ok_iff {id : AccountId} :
    readAccount env = .ok id ↔
      ∃ text, env.get? "HEDERA_ACCOUNT_ID" = some text ∧ EntityId.Spells text.toList id := by
  simp only [readAccount, bind_eq_ok, required_eq_ok_iff, mapError_eq_ok]
  refine exists_congr fun text => and_congr_right fun set => ?_
  exact EntityId.parse_iff_of_trim (Environment.trim_of_get? set)

theorem readAccount_eq_error_iff :
    readAccount env = .error e ↔
      (env.get? "HEDERA_ACCOUNT_ID" = none ∧ .missing "HEDERA_ACCOUNT_ID" = e) ∨
      ∃ text, env.get? "HEDERA_ACCOUNT_ID" = some text ∧
        (∀ id : AccountId, ¬ EntityId.Spells text.toList id) ∧
        .invalid "HEDERA_ACCOUNT_ID" (IdError.invalidEntity .account text).message = e := by
  simp only [readAccount, bind_eq_error, required_eq_error_iff, required_eq_ok_iff,
    mapError_eq_error, EntityId.parse_eq_error_iff]
  refine or_congr_right (exists_congr fun text => and_congr_right fun set => ?_)
  simp [EntityId.parse_iff_of_trim (Environment.trim_of_get? set)]

theorem readPrivateKey_eq (refusal : RefusalText) (env : Environment) :
    readPrivateKey refusal env = match env.keyReading? refusal with
      | some reading => (reading.mapError ConfigError.key).map some
      | none => .ok none := by
  unfold readPrivateKey Environment.keyReading?
  cases env.get? "HEDERA_PRIVATE_KEY" with
  | some text => rfl
  | none => cases env.get? "HEDERA_PRIVATE_KEY_PATH" <;> rfl

/-- A private key is read of the setting that counts, or is none where neither is set. -/
theorem readPrivateKey_eq_ok_iff {choice : Option PrivateKey} :
    readPrivateKey refusal env = .ok choice ↔ env.keyReading? refusal = choice.map .ok := by
  rw [readPrivateKey_eq]
  cases env.keyReading? refusal with
  | none => cases choice <;> simp
  | some reading => cases choice <;> simp [map_eq_ok, mapError_eq_ok]

theorem readPrivateKey_eq_error_iff :
    readPrivateKey refusal env = .error e ↔
      ∃ fault, env.keyReading? refusal = some (.error fault) ∧ .key fault = e := by
  rw [readPrivateKey_eq]
  cases env.keyReading? refusal with
  | none => simp
  | some reading => simp [map_eq_error, mapError_eq_error]

/-- The public key is the one that is set, or else that of the private key. -/
theorem readPublicKey_eq (env : Environment) (privateKey : Option PrivateKey) :
    readPublicKey env privateKey = match env.get? "HEDERA_PUBLIC_KEY", privateKey with
      | some text, _ =>
        (PublicKey.parse text).mapError fun e => .invalid "HEDERA_PUBLIC_KEY" e.message
      | none, some key => .ok key.publicKey
      | none, none => .error .missingPublicKey := by
  rw [readPublicKey.eq_def, optional]
  cases env.get? "HEDERA_PUBLIC_KEY" with
  | some text =>
      dsimp only
      cases PublicKey.parse text <;> simp only [Except.mapError, Except.map, bind, Except.bind]
  | none => cases privateKey <;> simp only [bind, Except.bind]

/-- A public key is read of its own setting, and only where that is absent of the private key. -/
theorem readPublicKey_eq_ok_iff {privateKey : Option PrivateKey} {key : PublicKey} :
    readPublicKey env privateKey = .ok key ↔ match env.get? "HEDERA_PUBLIC_KEY" with
      | some text => PublicKey.parse text = .ok key
      | none => privateKey.map PrivateKey.publicKey = some key := by
  rw [readPublicKey_eq]
  cases env.get? "HEDERA_PUBLIC_KEY" with
  | some text => simp [mapError_eq_ok]
  | none => cases privateKey <;> simp

/-- A public key is refused by its own text, or for want of a private key. -/
theorem readPublicKey_eq_error_iff {privateKey : Option PrivateKey} :
    readPublicKey env privateKey = .error e ↔ match env.get? "HEDERA_PUBLIC_KEY" with
      | some text => ∃ fault, PublicKey.parse text = .error fault ∧
          .invalid "HEDERA_PUBLIC_KEY" fault.message = e
      | none => privateKey = none ∧ .missingPublicKey = e := by
  rw [readPublicKey_eq]
  cases env.get? "HEDERA_PUBLIC_KEY" with
  | some text => simp [mapError_eq_error]
  | none => cases privateKey <;> simp

theorem logFormat_gives {format : LogFormat} :
    LogFormat.read env = .ok format ↔
      env.Gives "LOG_FORMAT" (fun text format => asciiLower text = format.name) .pretty format := by
  rw [LogFormat.read, Environment.Gives]
  cases env.get? "LOG_FORMAT" with
  | none => simp [eq_comm]
  | some text => rw [mapError_eq_ok, LogFormat.parse_eq_ok_iff]

end Config

end LedgerAgent
