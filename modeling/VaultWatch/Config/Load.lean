import VaultWatch.Config.Placeholder
import VaultWatch.Config.Settings
import VaultWatch.Text.Quoted
import VaultWatch.Text.Utf8
import VaultWatch.Toml.Reader

/-!
# Loading configurations

A configuration file is UTF-8 text. Its placeholders are expanded, the result is read as TOML, the
sections are taken from the tables, and the whole is validated. Keys that no section knows are
passed over.
-/

namespace VaultWatch

/-- Why no configuration could be loaded. -/
inductive ConfigError where
  /-- There is no such file. -/
  | noFile (path : String)
  /-- The file is not text. -/
  | notText (path : String)
  /-- The text is no TOML document, or a section does not fit it. -/
  | malformed
  /-- The configuration is not fit to run. -/
  | invalid (fault : Settings.Fault)
  deriving DecidableEq, Repr

/-- The wording of a failed load. -/
def ConfigError.message : ConfigError → String
  | .noFile path => "Failed to read config file: " ++ Quoted.path path
  | .notText path => "Failed to read config file: " ++ Quoted.path path
  | .malformed => "Failed to parse configuration"
  | .invalid fault => fault.message

namespace Config

/-! ### Fields of a section -/

/-- The fields of a section. A section may also be written as an array of its fields in order; then
none of those without a default may be left out. -/
structure Fields where
  find? : String → Option Toml
  positional : Bool

/-- The fields of a value with the given names. A point in time is a section without any. -/
def fields? (names : List String) : Toml → Option Fields
  | .table _ entries => some ⟨fun name => Toml.find? name entries, false⟩
  | .time => some ⟨fun _ => none, false⟩
  | .array items => some ⟨fun name => (names.zip items).lookup name, true⟩
  | .tables items =>
    some ⟨fun name => (names.zip (items.map (Toml.table .header))).lookup name, true⟩
  | _ => none

namespace Fields

/-- A field that must be there. -/
def required {α : Type} (f : Fields) (name : String) (read : Toml → Option α) : Option α :=
  (f.find? name).bind read

/-- A field with a default. -/
def withDefault {α : Type} (f : Fields) (name : String) (default : α) (read : Toml → Option α) :
    Option α :=
  match f.find? name with
  | some value => read value
  | none => some default

/-- A field that may be left out. -/
def optional {α : Type} (f : Fields) (name : String) (read : Toml → Option α) :
    Option (Option α) :=
  match f.find? name with
  | some value => (read value).map some
  | none => if f.positional then none else some none

end Fields

/-! ### Values -/

/-- A text. -/
def text? : Toml → Option String
  | .string value => some value
  | _ => none

/-- A truth value. -/
def bool? : Toml → Option Bool
  | .bool value => some value
  | _ => none

/-- A natural number below a bound. -/
def natBelow? (bound : Nat) : Toml → Option Nat
  | .integer (.ofNat value) => if value < bound then some value else none
  | _ => none

/-- A number of 64 bits. -/
def u64? : Toml → Option Nat := natBelow? UInt64.size

/-- A number of 32 bits. -/
def u32? : Toml → Option Nat := natBelow? UInt32.size

/-- A number of 16 bits. -/
def u16? : Toml → Option Nat := natBelow? UInt16.size

/-- A list of texts. -/
def texts? : Toml → Option (List String)
  | .array items => items.mapM text?
  | _ => none

/-- The name of a choice: a text, or a table with that one key and nothing under it. -/
def choice? : Toml → Option String
  | .string name => some name
  | .table _ [(name, .table _ [])] => some name
  | .table _ [(name, .array [])] => some name
  | _ => none

/-- The name of a fee mode. -/
def feeMode? (value : Toml) : Option Pricing :=
  (choice? value).bind fun name => [Pricing.legacy, .feeMarket].find? (·.name == name)

/-- The name of a kind of chain. -/
def family? (value : Toml) : Option Family :=
  (choice? value).bind fun name => if name = "evm" then some .evm else none

/-! ### Sections -/

/-- The steps of the cadence. -/
def tuning? (value : Toml) : Option Tuning := do
  let d : Tuning := {}
  let f ← fields? ["streak_len", "streak_drop_permille", "hit_drop_permille",
    "minor_delay_raise_permille", "miss_raise_permille", "slow_down_after_miss"] value
  let streakLen ← f.withDefault "streak_len" d.streakLen u32?
  let streakDrop ← f.withDefault "streak_drop_permille" d.streakDrop u64?
  let hitDrop ← f.withDefault "hit_drop_permille" d.hitDrop u64?
  let lateRaise ← f.withDefault "minor_delay_raise_permille" d.lateRaise u64?
  let missRaise ← f.withDefault "miss_raise_permille" d.missRaise u64?
  let slowDownAfterMiss ← f.withDefault "slow_down_after_miss" d.slowDownAfterMiss bool?
  return { streakLen, streakDrop, hitDrop, lateRaise, missRaise, slowDownAfterMiss }

/-- The engine's defaults. -/
def engine? (value : Toml) : Option EngineSettings := do
  let d : EngineSettings := {}
  let f ← fields? ["initial_poll_interval_ms", "min_poll_interval_ms", "rpc_timeout_factor",
    "min_rpc_timeout_ms", "height_retry_delay_ms", "endpoint_refresh_secs", "unhealthy_refresh_ms",
    "max_receipt_retry", "receipt_retry_delay_ms", "tracked_capacity", "track_timeout_secs",
    "fee_window", "gas_price_refresh_secs", "default_base_fee", "default_tip", "channel_capacity",
    "tuning"] value
  let initialPollIntervalMs ← f.withDefault "initial_poll_interval_ms" d.initialPollIntervalMs u64?
  let minPollIntervalMs ← f.withDefault "min_poll_interval_ms" d.minPollIntervalMs u64?
  let rpcTimeoutFactor ← f.withDefault "rpc_timeout_factor" d.rpcTimeoutFactor u32?
  let minRpcTimeoutMs ← f.withDefault "min_rpc_timeout_ms" d.minRpcTimeoutMs u64?
  let heightRetryDelayMs ← f.withDefault "height_retry_delay_ms" d.heightRetryDelayMs u64?
  let endpointRefreshSecs ← f.withDefault "endpoint_refresh_secs" d.endpointRefreshSecs u64?
  let unhealthyRefreshMs ← f.withDefault "unhealthy_refresh_ms" d.unhealthyRefreshMs u64?
  let maxReceiptRetry ← f.withDefault "max_receipt_retry" d.maxReceiptRetry u32?
  let receiptRetryDelayMs ← f.withDefault "receipt_retry_delay_ms" d.receiptRetryDelayMs u64?
  let trackedCapacity ← f.withDefault "tracked_capacity" d.trackedCapacity u64?
  let trackTimeoutSecs ← f.withDefault "track_timeout_secs" d.trackTimeoutSecs u64?
  let feeWindow ← f.withDefault "fee_window" d.feeWindow u64?
  let gasPriceRefreshSecs ← f.withDefault "gas_price_refresh_secs" d.gasPriceRefreshSecs u64?
  let defaultBaseFee ← f.withDefault "default_base_fee" d.defaultBaseFee u64?
  let defaultTip ← f.withDefault "default_tip" d.defaultTip u64?
  let channelCapacity ← f.withDefault "channel_capacity" d.channelCapacity u64?
  let tuning ← f.withDefault "tuning" d.tuning tuning?
  return { initialPollIntervalMs, minPollIntervalMs, rpcTimeoutFactor, minRpcTimeoutMs,
           heightRetryDelayMs, endpointRefreshSecs, unhealthyRefreshMs, maxReceiptRetry,
           receiptRetryDelayMs, trackedCapacity, trackTimeoutSecs, feeWindow, gasPriceRefreshSecs,
           defaultBaseFee, defaultTip, channelCapacity, tuning }

/-- The database section. -/
def database? (value : Toml) : Option DatabaseSettings := do
  let f ← fields? ["url", "max_connections", "min_connections"] value
  let url ← f.required "url" text?
  let maxConnections ← f.required "max_connections" u32?
  let minConnections ← f.required "min_connections" u32?
  return { url, maxConnections, minConnections }

/-- The section of the server for health and status. -/
def api? (value : Toml) : Option ApiSettings := do
  let f ← fields? ["enabled", "host", "port"] value
  let enabled ← f.required "enabled" bool?
  let host ← f.required "host" text?
  let port ← f.required "port" u16?
  return { enabled, host, port }

/-- The section of the server for metrics. -/
def metrics? (value : Toml) : Option MetricsSettings := do
  let f ← fields? ["enabled", "port"] value
  let enabled ← f.required "enabled" bool?
  let port ← f.required "port" u16?
  return { enabled, port }

/-- A chain's section. -/
def chain? (value : Toml) : Option ChainSettings := do
  let f ← fields? ["name", "family", "rpc_urls", "fee_mode", "max_gas_price_gwei", "check_balance",
    "case_insensitive_addresses", "enabled", "initial_poll_interval_ms", "min_poll_interval_ms",
    "endpoint_refresh_secs", "max_receipt_retry", "receipt_retry_delay_ms", "tracked_capacity",
    "track_timeout_secs", "fee_window", "gas_price_refresh_secs", "default_base_fee",
    "default_tip"] value
  let name ← f.required "name" text?
  let family ← f.required "family" family?
  let rpcUrls ← f.required "rpc_urls" texts?
  let feeMode ← f.required "fee_mode" feeMode?
  let maxGasPriceGwei ← f.withDefault "max_gas_price_gwei" none fun v => (u64? v).map some
  let checkBalance ← f.withDefault "check_balance" false bool?
  let caseInsensitiveAddresses ← f.withDefault "case_insensitive_addresses" true bool?
  let enabled ← f.required "enabled" bool?
  let initialPollIntervalMs ← f.optional "initial_poll_interval_ms" u64?
  let minPollIntervalMs ← f.optional "min_poll_interval_ms" u64?
  let endpointRefreshSecs ← f.optional "endpoint_refresh_secs" u64?
  let maxReceiptRetry ← f.optional "max_receipt_retry" u32?
  let receiptRetryDelayMs ← f.optional "receipt_retry_delay_ms" u64?
  let trackedCapacity ← f.optional "tracked_capacity" u64?
  let trackTimeoutSecs ← f.optional "track_timeout_secs" u64?
  let feeWindow ← f.optional "fee_window" u64?
  let gasPriceRefreshSecs ← f.optional "gas_price_refresh_secs" u64?
  let defaultBaseFee ← f.optional "default_base_fee" u64?
  let defaultTip ← f.optional "default_tip" u64?
  return { name, family, rpcUrls, feeMode, maxGasPriceGwei, checkBalance,
           caseInsensitiveAddresses, enabled, initialPollIntervalMs, minPollIntervalMs,
           endpointRefreshSecs, maxReceiptRetry, receiptRetryDelayMs, trackedCapacity,
           trackTimeoutSecs, feeWindow, gasPriceRefreshSecs, defaultBaseFee, defaultTip }

/-- The chains' sections, in the order of the document. -/
def chains? : Toml → Option (List (String × ChainSettings))
  | .table _ entries => entries.mapM fun e => (chain? e.2).map fun c => (e.1, c)
  | _ => none

/-- The settings in a document's root table. -/
def settings? (entries : Toml.Entries) : Option Settings := do
  let f : Fields := ⟨fun name => Toml.find? name entries, false⟩
  let engine ← f.withDefault "engine" {} engine?
  let database ← f.optional "database" database?
  let api ← f.required "api" api?
  let metrics ← f.required "metrics" metrics?
  let chains ← f.required "chains" chains?
  return { engine, database, api, metrics, chains }

/-! ### Files -/

/-- The configuration that a file's text stands for in an environment. -/
def ofText (env : String → Option String) (text : String) : Except ConfigError Settings :=
  -- Values go in before anything is read, so that they may hold any piece of a document.
  let expanded := String.ofList (Placeholder.expand (Placeholder.valueIn env) text.toList)
  match (Toml.parse? expanded).bind settings? with
  | none => .error .malformed
  | some settings =>
    match settings.validate with
    | .error fault => .error (.invalid fault)
    | .ok () => .ok settings

/-- The configuration of a file that is there, or of one that is not. -/
def load (env : String → Option String) (path : String) (file : Option Bytes) :
    Except ConfigError Settings :=
  match file with
  | none => .error (.noFile path)
  | some bytes =>
    match Utf8.decode bytes with
    | .error _ => .error (.notText path)
    | .ok text => ofText env text

/-- The variable that names the configuration file. -/
def pathVariable : String := "VAULT_OBSERVER_CONFIG"

/-- The configuration file when no variable names one. -/
def defaultPath : String := "config/default.toml"

end Config

end VaultWatch
