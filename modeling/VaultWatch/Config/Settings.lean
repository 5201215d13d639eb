import VaultWatch.Cadence

/-!
# Settings

What a configuration says: the engine's defaults, the optional database, the two servers, and a
section per chain that may override the defaults. `ChainPlan.resolve` merges a chain's section
over the defaults, and `Settings.validate` says what is wrong with a configuration, if anything.
-/

namespace VaultWatch

/-- How a chain's fees are estimated. -/
inductive Pricing where
  | legacy
  | feeMarket
  deriving DecidableEq, Repr

/-- The name of a fee mode in configurations. -/
def Pricing.name : Pricing → String
  | .legacy => "legacy"
  | .feeMarket => "fee_market"

/-- The kind of a chain's nodes. -/
inductive Family where
  | evm
  deriving DecidableEq, Repr

/-! ### Sections -/

/-- The defaults that all chains share. -/
structure EngineSettings where
  initialPollIntervalMs : Nat := 10000
  minPollIntervalMs : Nat := 500
  rpcTimeoutFactor : Nat := 2
  minRpcTimeoutMs : Nat := 5000
  heightRetryDelayMs : Nat := 5000
  endpointRefreshSecs : Nat := 1800
  unhealthyRefreshMs : Nat := 5000
  maxReceiptRetry : Nat := 5
  receiptRetryDelayMs : Nat := 3000
  trackedCapacity : Nat := 1000
  trackTimeoutSecs : Nat := 1800
  feeWindow : Nat := 40
  gasPriceRefreshSecs : Nat := 60
  defaultBaseFee : Nat := 30000000000
  defaultTip : Nat := 2000000000
  channelCapacity : Nat := 16
  tuning : Tuning := {}
  deriving DecidableEq, Repr

/-- The database to keep observed transactions in. -/
structure DatabaseSettings where
  url : String
  maxConnections : Nat
  minConnections : Nat
  deriving DecidableEq, Repr

/-- The server for health and status. -/
structure ApiSettings where
  enabled : Bool
  host : String
  port : Nat
  deriving DecidableEq, Repr

/-- The server for metrics. -/
structure MetricsSettings where
  enabled : Bool
  port : Nat
  deriving DecidableEq, Repr

/-- A chain's section; what is `none` is taken from the defaults. -/
structure ChainSettings where
  name : String
  family : Family
  rpcUrls : List String
  feeMode : Pricing
  maxGasPriceGwei : Option Nat := none
  checkBalance : Bool := false
  caseInsensitiveAddresses : Bool := true
  enabled : Bool
  initialPollIntervalMs : Option Nat := none
  minPollIntervalMs : Option Nat := none
  endpointRefreshSecs : Option Nat := none
  maxReceiptRetry : Option Nat := none
  receiptRetryDelayMs : Option Nat := none
  trackedCapacity : Option Nat := none
  trackTimeoutSecs : Option Nat := none
  feeWindow : Option Nat := none
  gasPriceRefreshSecs : Option Nat := none
  defaultBaseFee : Option Nat := none
  defaultTip : Option Nat := none
  deriving DecidableEq, Repr

/-- A configuration. Each chain's section stands under a key, which need not be the chain's name. -/
structure Settings where
  engine : EngineSettings
  database : Option DatabaseSettings
  api : ApiSettings
  metrics : MetricsSettings
  chains : List (String × ChainSettings)
  deriving DecidableEq, Repr

/-! ### Watchers -/

/-- All that one chain's watcher is run with; times are in milliseconds, amounts in the smallest
unit. -/
structure ChainPlan where
  chain : String
  rpcUrls : List String
  feeMode : Pricing
  maxGasPrice : Option Nat
  checkBalance : Bool
  caseInsensitiveAddresses : Bool
  initialPollInterval : Nat
  minPollInterval : Nat
  rpcTimeoutFactor : Nat
  minRpcTimeout : Nat
  heightRetryDelay : Nat
  endpointRefresh : Nat
  unhealthyRefresh : Nat
  maxReceiptRetry : Nat
  receiptRetryDelay : Nat
  trackedCapacity : Nat
  trackTimeout : Nat
  feeWindow : Nat
  gasPriceRefresh : Nat
  defaultBaseFee : Nat
  defaultTip : Nat
  channelCapacity : Nat
  tuning : Tuning
  deriving DecidableEq, Repr

/-- The milliseconds of some seconds. -/
def secs (s : Nat) : Nat := 1000 * s

/-- A chain's section merged over the defaults. A gas price cap is given in units of a thousand
millions. -/
def ChainPlan.resolve (c : ChainSettings) (e : EngineSettings) : ChainPlan where
  chain := c.name
  rpcUrls := c.rpcUrls
  feeMode := c.feeMode
  maxGasPrice := c.maxGasPriceGwei.map (· * 1000000000)
  checkBalance := c.checkBalance
  caseInsensitiveAddresses := c.caseInsensitiveAddresses
  initialPollInterval := c.initialPollIntervalMs.getD e.initialPollIntervalMs
  minPollInterval := c.minPollIntervalMs.getD e.minPollIntervalMs
  rpcTimeoutFactor := max e.rpcTimeoutFactor 1
  minRpcTimeout := e.minRpcTimeoutMs
  heightRetryDelay := e.heightRetryDelayMs
  endpointRefresh := secs (c.endpointRefreshSecs.getD e.endpointRefreshSecs)
  unhealthyRefresh := max e.unhealthyRefreshMs 1
  maxReceiptRetry := c.maxReceiptRetry.getD e.maxReceiptRetry
  receiptRetryDelay := c.receiptRetryDelayMs.getD e.receiptRetryDelayMs
  trackedCapacity := c.trackedCapacity.getD e.trackedCapacity
  trackTimeout := secs (c.trackTimeoutSecs.getD e.trackTimeoutSecs)
  feeWindow := c.feeWindow.getD e.feeWindow
  gasPriceRefresh := secs (c.gasPriceRefreshSecs.getD e.gasPriceRefreshSecs)
  defaultBaseFee := c.defaultBaseFee.getD e.defaultBaseFee
  defaultTip := c.defaultTip.getD e.defaultTip
  channelCapacity := max e.channelCapacity 1
  tuning := e.tuning

/-- The longest pause between two sweeps for overdue transactions. -/
def longestSweep : Nat := secs 30

/-- The pause between two sweeps for overdue transactions. -/
def ChainPlan.sweepInterval (w : ChainPlan) : Nat :=
  min w.trackTimeout longestSweep

namespace Settings

/-- The chains that are enabled, with their keys. -/
def enabledSections (s : Settings) : List (String × ChainSettings) :=
  s.chains.filter (·.2.enabled)

/-- The resolved settings of every enabled chain. -/
def watchers (s : Settings) : List ChainPlan :=
  s.enabledSections.map fun c => ChainPlan.resolve c.2 s.engine

/-! ### What is wrong with a configuration -/

/-- A reason to refuse a configuration. -/
inductive Fault where
  | noChainEnabled
  | zeroPollFloor
  | chainWithoutUrls (key : String)
  | chainZeroPollFloor (key : String)
  | chainEmptyFeeWindow (key : String)
  | chainZeroTrackedCapacity (key : String)
  deriving DecidableEq, Repr

/-- The wording of a reason. -/
def Fault.message : Fault → String
  | .noChainEnabled => "At least one chain must be enabled"
  | .zeroPollFloor => "engine.min_poll_interval_ms must be positive"
  | .chainWithoutUrls key => "Chain " ++ key ++ " has no RPC URLs configured"
  | .chainZeroPollFloor key => "Chain " ++ key ++ " has a zero polling floor"
  | .chainEmptyFeeWindow key => "Chain " ++ key ++ " has an empty fee window"
  | .chainZeroTrackedCapacity key => "Chain " ++ key ++ " has a zero tracked-tx capacity"

/-- The first thing wrong with a chain's section. -/
def chainFault? (engine : EngineSettings) (key : String) (c : ChainSettings) : Option Fault :=
  let w := ChainPlan.resolve c engine
  if c.rpcUrls = [] then some (.chainWithoutUrls key)
  else if w.minPollInterval = 0 then some (.chainZeroPollFloor key)
  else if w.feeWindow = 0 then some (.chainEmptyFeeWindow key)
  else if w.trackedCapacity = 0 then some (.chainZeroTrackedCapacity key)
  else none

/-- The first thing wrong with a configuration; chains that are not enabled are not looked at. -/
def fault? (s : Settings) : Option Fault :=
  if s.enabledSections = [] then some .noChainEnabled
  else if s.engine.minPollIntervalMs = 0 then some .zeroPollFloor
  else s.enabledSections.findSome? fun c => chainFault? s.engine c.1 c.2

/-- The configuration is fit to run. -/
def validate (s : Settings) : Except Fault Unit :=
  match s.fault? with
  | some fault => .error fault
  | none => .ok ()

end Settings

end VaultWatch
