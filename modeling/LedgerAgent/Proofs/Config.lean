/-
Module: LedgerAgent.Proofs.Config
Purpose: Which settings an environment makes, and which setting at fault it is refused for.
Main exports: Setting, Environment.Faulty, Config.Describes, Config.read_eq_ok_iff,
  Config.read_eq_error_iff, Config.read_settles
-/
import LedgerAgent.Proofs.Config.Environment

namespace LedgerAgent

open Text Text.Numeral
open Json (bind_eq_ok map_eq_ok map_eq_error mapError_eq_ok mapError_eq_error)

/-! ### Settings and their faults -/

/-- The settings that can be at fault. -/
inductive Setting where
  | network
  | account
  | privateKey
  | publicKey
  | custodial
  | timeout
  | logFormat
  | relay
deriving Repr, DecidableEq

/-- The settings in the order in which they are looked at. -/
def Setting.order : List Setting :=
  [.network, .account, .privateKey, .publicKey, .custodial, .timeout, .logFormat, .relay]

namespace Environment

variable (refusal : RefusalText) (env : Environment)

/-- What is wrong with a setting: its variable is set and means nothing, or nothing says what it
should be. -/
inductive Faulty : Setting → ConfigError → Prop where
  | network {text : String} (set : env.get? "HEDERA_NETWORK" = some text)
      (unknown : ∀ network : Network, asciiLower text ≠ network.name) :
      Faulty .network (.invalid "HEDERA_NETWORK" (NetworkError.mk (asciiLower text)).message)
  | accountMissing (unset : env.get? "HEDERA_ACCOUNT_ID" = none) :
      Faulty .account (.missing "HEDERA_ACCOUNT_ID")
  | account {text : String} (set : env.get? "HEDERA_ACCOUNT_ID" = some text)
      (misspelt : ∀ id : AccountId, ¬ EntityId.Spells text.toList id) :
      Faulty .account (.invalid "HEDERA_ACCOUNT_ID" (IdError.invalidEntity .account text).message)
  | privateKey {e : KeyError} (refused : env.keyReading? refusal = some (.error e)) :
      Faulty .privateKey (.key e)
  | publicKey {text : String} {e : KeyError} (set : env.get? "HEDERA_PUBLIC_KEY" = some text)
      (refused : PublicKey.parse text = .error e) :
      Faulty .publicKey (.invalid "HEDERA_PUBLIC_KEY" e.message)
  | publicKeyMissing (unset : env.get? "HEDERA_PUBLIC_KEY" = none)
      (keyless : ∀ key, env.keyReading? refusal ≠ some (.ok key)) :
      Faulty .publicKey .missingPublicKey
  | custodial {text : String} (set : env.get? "HEDERA_CUSTODIAL" = some text)
      (neither : ∀ flag, text ≠ Config.flagName flag) :
      Faulty .custodial
        (.invalid "HEDERA_CUSTODIAL" "provided string was not `true` or `false`")
  | timeout {text : String} {e : NumeralError} (set : env.get? "HTTP_TIMEOUT_SECS" = some text)
      (refused : uint64 text.toList = .error e) :
      Faulty .timeout (.invalid "HTTP_TIMEOUT_SECS" e.message)
  | logFormat {text : String} (set : env.get? "LOG_FORMAT" = some text)
      (unknown : ∀ format : LogFormat, asciiLower text ≠ format.name) :
      Faulty .logFormat
        (.invalid "LOG_FORMAT" s!"expected `json` or `pretty`, got `{asciiLower text}`")
  | relayMissing (unset : env.get? "HEDERA_RELAY_URL" = none) :
      Faulty .relay (.missing "HEDERA_RELAY_URL")

end Environment

namespace Config

variable {refusal : RefusalText} {env : Environment} {e : ConfigError}

/-! ### Whole configurations -/

/-- The settings are those that the environment speaks of, and the defaults for the others. -/
structure Describes (refusal : RefusalText) (env : Environment) (config : Config) : Prop where
  network : env.Gives "HEDERA_NETWORK" (fun text network => asciiLower text = network.name) .testnet
    config.network
  account : ∃ text, env.get? "HEDERA_ACCOUNT_ID" = some text ∧
    EntityId.Spells text.toList config.account
  privateKey : env.keyReading? refusal = config.privateKey.map .ok
  publicKey : match env.get? "HEDERA_PUBLIC_KEY" with
    | some text => PublicKey.parse text = .ok config.publicKey
    | none => config.privateKey.map PrivateKey.publicKey = some config.publicKey
  custodial : env.Gives "HEDERA_CUSTODIAL" (fun text flag => text = flagName flag) false
    config.custodial
  timeoutSeconds : env.Gives "HTTP_TIMEOUT_SECS" (fun text n => Unsigned text.toList n.toNat) 15
    config.timeoutSeconds
  logFormat : env.Gives "LOG_FORMAT" (fun text format => asciiLower text = format.name) .pretty
    config.logFormat
  relayUrl : env.get? "HEDERA_RELAY_URL" = some config.relayUrl
  mirrorUrl : env.get? "MIRROR_NODE_URL" = config.mirrorUrl

theorem network_gives {network : Network} :
    (∃ choice, optional env "HEDERA_NETWORK" (fun text => (Network.parse text).mapError
        NetworkError.message) = .ok choice ∧ choice.getD .testnet = network) ↔
      env.Gives "HEDERA_NETWORK" (fun text network => asciiLower text = network.name) .testnet
        network := by
  refine optional_gives fun text set => ?_
  rw [mapError_eq_ok, Network.parse_eq_ok_iff, Environment.trim_of_get? set]

theorem custodial_gives {flag : Bool} :
    (∃ choice, optional env "HEDERA_CUSTODIAL" parseFlag = .ok choice ∧ choice.getD false = flag) ↔
      env.Gives "HEDERA_CUSTODIAL" (fun text flag => text = flagName flag) false flag :=
  optional_gives fun _ _ => parseFlag_eq_ok_iff

theorem timeout_gives {seconds : UInt64} :
    (∃ choice, optional env "HTTP_TIMEOUT_SECS" parseSeconds = .ok choice ∧
        choice.getD 15 = seconds) ↔
      env.Gives "HTTP_TIMEOUT_SECS" (fun text n => Unsigned text.toList n.toNat) 15 seconds := by
  refine optional_gives fun text _ => ?_
  rw [parseSeconds, mapError_eq_ok, uint64_eq_ok_iff]

/-- The settings are read exactly where the environment describes them. -/
theorem read_eq_ok_iff {config : Config} :
    read refusal env = .ok config ↔ Describes refusal env config := by
  constructor
  · intro made
    obtain ⟨network, networkRead, made⟩ := bind_eq_ok.1 made
    obtain ⟨account, accountRead, made⟩ := bind_eq_ok.1 made
    obtain ⟨privateKey, privateKeyRead, made⟩ := bind_eq_ok.1 made
    obtain ⟨publicKey, publicKeyRead, made⟩ := bind_eq_ok.1 made
    obtain ⟨custodial, custodialRead, made⟩ := bind_eq_ok.1 made
    obtain ⟨timeout, timeoutRead, made⟩ := bind_eq_ok.1 made
    obtain ⟨logFormat, logFormatRead, made⟩ := bind_eq_ok.1 made
    obtain ⟨relayUrl, relayRead, made⟩ := bind_eq_ok.1 made
    cases made
    exact {
      network := network_gives.1 ⟨network, networkRead, rfl⟩
      account := readAccount_eq_ok_iff.1 accountRead
      privateKey := readPrivateKey_eq_ok_iff.1 privateKeyRead
      publicKey := readPublicKey_eq_ok_iff.1 publicKeyRead
      custodial := custodial_gives.1 ⟨custodial, custodialRead, rfl⟩
      timeoutSeconds := timeout_gives.1 ⟨timeout, timeoutRead, rfl⟩
      logFormat := logFormat_gives.1 logFormatRead
      relayUrl := required_eq_ok_iff.1 relayRead
      mirrorUrl := rfl }
  · intro described
    obtain ⟨network, networkRead, networkSame⟩ := network_gives.2 described.network
    obtain ⟨custodial, custodialRead, custodialSame⟩ := custodial_gives.2 described.custodial
    obtain ⟨timeout, timeoutRead, timeoutSame⟩ := timeout_gives.2 described.timeoutSeconds
    refine bind_eq_ok.2 ⟨_, networkRead, ?_⟩
    refine bind_eq_ok.2 ⟨_, readAccount_eq_ok_iff.2 described.account, ?_⟩
    refine bind_eq_ok.2 ⟨_, readPrivateKey_eq_ok_iff.2 described.privateKey, ?_⟩
    refine bind_eq_ok.2 ⟨_, readPublicKey_eq_ok_iff.2 described.publicKey, ?_⟩
    refine bind_eq_ok.2 ⟨_, custodialRead, ?_⟩
    refine bind_eq_ok.2 ⟨_, timeoutRead, ?_⟩
    refine bind_eq_ok.2 ⟨_, logFormat_gives.2 described.logFormat, ?_⟩
    refine bind_eq_ok.2 ⟨_, required_eq_ok_iff.2 described.relayUrl, ?_⟩
    rw [networkSame, custodialSame, timeoutSame, described.mirrorUrl]
    rfl

/-! ### The first fault -/

/-- A setting is looked at on its own. -/
def check (refusal : RefusalText) (env : Environment) : Setting → Except ConfigError Unit
  | .network => (optional env "HEDERA_NETWORK"
      fun text => (Network.parse text).mapError NetworkError.message).map fun _ => ()
  | .account => (readAccount env).map fun _ => ()
  | .privateKey => (readPrivateKey refusal env).map fun _ => ()
  | .publicKey => (readPublicKey env (readPrivateKey refusal env).toOption.join).map fun _ => ()
  | .custodial => (optional env "HEDERA_CUSTODIAL" parseFlag).map fun _ => ()
  | .timeout => (optional env "HTTP_TIMEOUT_SECS" parseSeconds).map fun _ => ()
  | .logFormat => (LogFormat.read env).map fun _ => ()
  | .relay => (env.required "HEDERA_RELAY_URL").map fun _ => ()

/-- Of a step and what follows it, only the faults are looked at. -/
theorem map_bind_eq {ε α β : Type} {x : Except ε α} {f : α → Except ε β} {rest : Except ε Unit}
    (onward : ∀ a, x = .ok a → (f a).map (fun _ => ()) = rest) :
    (x >>= f).map (fun _ => ()) = ((x.map fun _ => ()) >>= fun _ => rest) := by
  cases x with
  | error e => rfl
  | ok a => exact onward a rfl

/-- Reading the settings fails as looking at one after the other does. -/
theorem map_read (refusal : RefusalText) (env : Environment) :
    (read refusal env).map (fun _ => ()) = forM Setting.order (check refusal env) := by
  refine map_bind_eq fun network _ => ?_
  refine map_bind_eq fun account _ => ?_
  refine map_bind_eq fun privateKey found => ?_
  have key : (readPrivateKey refusal env).toOption.join = privateKey := by
    rw [found]
    cases privateKey <;> rfl
  rw [← key]
  refine map_bind_eq fun publicKey _ => ?_
  refine map_bind_eq fun custodial _ => ?_
  refine map_bind_eq fun timeout _ => ?_
  refine map_bind_eq fun logFormat _ => ?_
  refine map_bind_eq fun relayUrl _ => ?_
  rfl

theorem check_network_iff :
    check refusal env .network = .error e ↔ env.Faulty refusal .network e := by
  rw [check, map_eq_error, optional_eq_error_iff]
  simp only [mapError_eq_error, Network.parse_eq_error_iff]
  constructor
  · rintro ⟨text, _, set, ⟨_, ⟨unknown, rfl⟩, rfl⟩, rfl⟩
    rw [Environment.trim_of_get? set] at unknown ⊢
    exact .network set unknown
  · intro faulty
    cases faulty with
    | network set unknown =>
        rw [← Environment.trim_of_get? set] at unknown ⊢
        exact ⟨_, _, set, ⟨_, ⟨unknown, rfl⟩, rfl⟩, rfl⟩

theorem check_account_iff :
    check refusal env .account = .error e ↔ env.Faulty refusal .account e := by
  rw [check, map_eq_error, readAccount_eq_error_iff]
  constructor
  · rintro (⟨unset, rfl⟩ | ⟨text, set, misspelt, rfl⟩)
    · exact .accountMissing unset
    · exact .account set misspelt
  · intro faulty
    cases faulty with
    | accountMissing unset => exact .inl ⟨unset, rfl⟩
    | account set misspelt => exact .inr ⟨_, set, misspelt, rfl⟩

theorem check_privateKey_iff :
    check refusal env .privateKey = .error e ↔ env.Faulty refusal .privateKey e := by
  rw [check, map_eq_error, readPrivateKey_eq_error_iff]
  constructor
  · rintro ⟨fault, refused, rfl⟩
    exact .privateKey refused
  · intro faulty
    cases faulty with
    | privateKey refused => exact ⟨_, refused, rfl⟩

/-- No private key can be read exactly if what becomes of it is none. -/
theorem join_readPrivateKey_eq_none_iff : (readPrivateKey refusal env).toOption.join = none ↔
    ∀ key, env.keyReading? refusal ≠ some (.ok key) := by
  rw [readPrivateKey_eq]
  cases env.keyReading? refusal with
  | none => simp [Except.toOption]
  | some reading => cases reading <;> simp [Except.toOption, Except.mapError, Except.map]

theorem check_publicKey_iff :
    check refusal env .publicKey = .error e ↔ env.Faulty refusal .publicKey e := by
  rw [check, map_eq_error, readPublicKey_eq_error_iff, join_readPrivateKey_eq_none_iff]
  constructor
  · intro refused
    split at refused
    · next text set =>
      obtain ⟨fault, refused, rfl⟩ := refused
      exact .publicKey set refused
    · next unset =>
      obtain ⟨keyless, rfl⟩ := refused
      exact .publicKeyMissing unset keyless
  · intro faulty
    cases faulty with
    | publicKey set refused =>
        rw [set]
        exact ⟨_, refused, rfl⟩
    | publicKeyMissing unset keyless =>
        rw [unset]
        exact ⟨keyless, rfl⟩

theorem check_custodial_iff :
    check refusal env .custodial = .error e ↔ env.Faulty refusal .custodial e := by
  rw [check, map_eq_error, optional_eq_error_iff]
  simp only [parseFlag_eq_error_iff]
  constructor
  · rintro ⟨text, _, set, ⟨neither, rfl⟩, rfl⟩
    exact .custodial set neither
  · intro faulty
    cases faulty with
    | custodial set neither => exact ⟨_, _, set, ⟨neither, rfl⟩, rfl⟩

theorem check_timeout_iff :
    check refusal env .timeout = .error e ↔ env.Faulty refusal .timeout e := by
  rw [check, map_eq_error, optional_eq_error_iff]
  simp only [parseSeconds, mapError_eq_error]
  constructor
  · rintro ⟨text, _, set, ⟨fault, refused, rfl⟩, rfl⟩
    exact .timeout set refused
  · intro faulty
    cases faulty with
    | timeout set refused => exact ⟨_, _, set, ⟨_, refused, rfl⟩, rfl⟩

theorem check_logFormat_iff :
    check refusal env .logFormat = .error e ↔ env.Faulty refusal .logFormat e := by
  rw [check, map_eq_error, LogFormat.read]
  constructor
  · intro refused
    split at refused
    · cases refused
    · next text set =>
      obtain ⟨reason, unread, rfl⟩ := mapError_eq_error.1 refused
      obtain ⟨unknown, rfl⟩ := LogFormat.parse_eq_error_iff.1 unread
      exact .logFormat set unknown
  · intro faulty
    cases faulty with
    | logFormat set unknown =>
        rw [set]
        exact mapError_eq_error.2 ⟨_, LogFormat.parse_eq_error_iff.2 ⟨unknown, rfl⟩, rfl⟩

theorem check_relay_iff :
    check refusal env .relay = .error e ↔ env.Faulty refusal .relay e := by
  rw [check, map_eq_error, required_eq_error_iff]
  constructor
  · rintro ⟨unset, rfl⟩
    exact .relayMissing unset
  · intro faulty
    cases faulty with
    | relayMissing unset => exact ⟨unset, rfl⟩

/-- A setting is refused on its own exactly where it is faulty. -/
theorem check_eq_error_iff {setting : Setting} :
    check refusal env setting = .error e ↔ env.Faulty refusal setting e := by
  cases setting with
  | network => exact check_network_iff
  | account => exact check_account_iff
  | privateKey => exact check_privateKey_iff
  | publicKey => exact check_publicKey_iff
  | custodial => exact check_custodial_iff
  | timeout => exact check_timeout_iff
  | logFormat => exact check_logFormat_iff
  | relay => exact check_relay_iff

theorem check_eq_ok_iff {setting : Setting} :
    check refusal env setting = .ok () ↔ ∀ e, ¬ env.Faulty refusal setting e := by
  simp only [← check_eq_error_iff]
  cases check refusal env setting with
  | ok u => exact ⟨fun _ _ => nofun, fun _ => rfl⟩
  | error e => exact ⟨nofun, fun faultless => absurd rfl (faultless e)⟩

theorem forM_eq_ok_iff {ε α : Type} {check : α → Except ε Unit} {items : List α} :
    forM items check = .ok () ↔ ∀ item ∈ items, check item = .ok () := by
  induction items with
  | nil => exact ⟨fun _ => nofun, fun _ => rfl⟩
  | cons first rest inductionHypothesis =>
      rw [List.forM_cons, bind_eq_ok, List.forall_mem_cons, ← inductionHypothesis]
      constructor
      · rintro ⟨_, pass, passed⟩
        exact ⟨pass, passed⟩
      · rintro ⟨pass, passed⟩
        exact ⟨(), pass, passed⟩

/-- Of checks that are made one after the other the first that fails decides. -/
theorem forM_eq_error_iff {ε α : Type} {check : α → Except ε Unit} {items : List α} {e : ε} :
    forM items check = .error e ↔ ∃ earlier item later, items = earlier ++ item :: later ∧
      (∀ other ∈ earlier, ∀ e', check other ≠ .error e') ∧ check item = .error e := by
  induction items with
  | nil =>
      constructor
      · intro failed
        cases failed
      · rintro ⟨earlier, item, later, parted, -⟩
        exact absurd parted.symm (List.append_ne_nil_of_right_ne_nil _ (List.cons_ne_nil _ _))
  | cons first rest inductionHypothesis =>
      rw [List.forM_cons, Json.bind_eq_error, inductionHypothesis]
      constructor
      · rintro (failed | ⟨_, passed, earlier, item, later, rfl, pass, failed⟩)
        · exact ⟨[], first, rest, rfl, nofun, failed⟩
        · refine ⟨first :: earlier, item, later, rfl, List.forall_mem_cons.2 ⟨?_, pass⟩, failed⟩
          intro e' failed'
          rw [passed] at failed'
          cases failed'
      · rintro ⟨earlier, item, later, parted, pass, failed⟩
        cases earlier with
        | nil =>
            cases parted
            exact .inl failed
        | cons _ earlier =>
            cases parted
            obtain ⟨passed, pass⟩ := List.forall_mem_cons.1 pass
            cases result : check first with
            | error e' => exact absurd result (passed e')
            | ok u => exact .inr ⟨u, rfl, earlier, item, later, rfl, pass, failed⟩

/-- The first setting at fault decides what is said. -/
theorem read_eq_error_iff : read refusal env = .error e ↔
    ∃ earlier setting later, Setting.order = earlier ++ setting :: later ∧
      (∀ other ∈ earlier, ∀ e', ¬ env.Faulty refusal other e') ∧ env.Faulty refusal setting e := by
  rw [← map_eq_error (f := fun _ => ()), map_read, forM_eq_error_iff]
  simp only [ne_eq, check_eq_error_iff]

theorem mem_order (setting : Setting) : setting ∈ Setting.order := by
  cases setting <;> decide

/-- Settings are made exactly if none of them is at fault. -/
theorem exists_read_iff :
    (∃ config, read refusal env = .ok config) ↔ ∀ setting e, ¬ env.Faulty refusal setting e := by
  have passes : (∃ config, read refusal env = .ok config) ↔
      forM Setting.order (check refusal env) = .ok () := by
    rw [← map_read, map_eq_ok]
    exact exists_congr fun config => (and_iff_left rfl).symm
  rw [passes, forM_eq_ok_iff]
  simp only [check_eq_ok_iff]
  exact ⟨fun faultless setting => faultless setting (mem_order setting),
    fun faultless setting _ => faultless setting⟩

/-- Only what the variables say counts, without the white space around it, and where one of them
holds the private key, not even the name of a key file.  The settings are made if none is at
fault, and then they are those that the environment describes; else the first at fault is told.
All this holds in whatever words the contents of a key are refused. -/
theorem read_settles (refusal : RefusalText) (env : Environment) :
    read refusal env.normalized = read refusal env ∧
    (∀ env' text, env.get? "HEDERA_PRIVATE_KEY" = some text →
      (∀ name, name ≠ "HEDERA_PRIVATE_KEY_PATH" → env'.get? name = env.get? name) →
        read refusal env' = read refusal env) ∧
    ((∃ config, read refusal env = .ok config) ↔ ∀ setting e, ¬ env.Faulty refusal setting e) ∧
    (∀ config, read refusal env = .ok config ↔ Describes refusal env config) ∧
    ∀ e, read refusal env = .error e ↔
      ∃ earlier setting later, Setting.order = earlier ++ setting :: later ∧
        (∀ other ∈ earlier, ∀ e', ¬ env.Faulty refusal other e') ∧ env.Faulty refusal setting e :=
  ⟨read_normalized refusal env, fun _ _ => read_of_key, exists_read_iff, fun _ => read_eq_ok_iff,
    fun _ => read_eq_error_iff⟩

/-- An environment in which the private key stands in a variable, and also a key file is named. -/
def keyed : Environment where
  lookup name := [("HEDERA_ACCOUNT_ID", " 0.0.1001 "), ("HEDERA_PRIVATE_KEY", "0xabcdef\n"),
    ("HEDERA_PRIVATE_KEY_PATH", "/keys/operator.pem"), ("HEDERA_CUSTODIAL", "  ")].lookup name
  file _ := .ok []

/-- The same environment without the key file. -/
def unfiled : Environment where
  lookup name := if name = "HEDERA_PRIVATE_KEY_PATH" then none else keyed.lookup name
  file _ := .error .missing

theorem read_settles_unfiled :
    keyed.get? "HEDERA_PRIVATE_KEY" = some "0xabcdef" ∧
      (∀ name, name ≠ "HEDERA_PRIVATE_KEY_PATH" → unfiled.get? name = keyed.get? name) ∧
      ∀ refusal, read refusal unfiled = read refusal keyed := by
  have set : keyed.get? "HEDERA_PRIVATE_KEY" = some "0xabcdef" := by decide +kernel
  have same : ∀ name, name ≠ "HEDERA_PRIVATE_KEY_PATH" →
      unfiled.get? name = keyed.get? name := by
    intro name other
    simp only [Environment.get?, unfiled, if_neg other]
  exact ⟨set, same, fun refusal => (read_settles refusal keyed).2.1 unfiled _ set same⟩

end Config

end LedgerAgent
