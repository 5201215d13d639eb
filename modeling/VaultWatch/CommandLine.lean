import VaultWatch.Config.Load
import VaultWatch.Evm.SignedPayload
import VaultWatch.Manager
import VaultWatch.Url.Absolute

/-!
# The command line

The program reads the configuration file that a variable names, or the default one, and starts every
enabled chain. A chain that cannot be started is left out; the program runs as long as there is one.
-/

namespace VaultWatch.CommandLine

/-- Why the program does not run. -/
inductive Refusal where
  | config (error : ConfigError)
  /-- Observed transactions are to be kept in a database, and it cannot be reached. -/
  | database
  | noChain
  deriving DecidableEq, Repr

/-- The wording of a refusal. -/
def Refusal.message : Refusal → String
  | .config error => error.message
  | .database => "Database error"
  | .noChain => "No chain could be started"

/-- The line that tells of a refusal. -/
def Refusal.line (refusal : Refusal) : String := "Error: " ++ refusal.message

/-- What connecting and probing an address comes to: an address that is none cannot be connected,
and otherwise it is as healthy as the network says. -/
def reach (answers : String → Bool) (url : String) : Option Bool :=
  if Url.isAbsolute url then some (answers url) else none

/-- Adds a chain; one that cannot be started is left out. -/
def addOrSkip (answers : String → Bool) (m : Manager) (settings : ChainPlan) : Manager :=
  let targets := (Manager.newPool settings).targets []
  (m.startChain settings Evm.codec (targets.map fun url => (url, reach answers url))).2

/-- Adds chains one after another. -/
def startAll (answers : String → Bool) (m : Manager) (chains : List ChainPlan) : Manager :=
  chains.foldl (addOrSkip answers) m

/-- The capacity of the outbound streams. -/
def streamCapacity (settings : Settings) : Nat := settings.engine.channelCapacity

/-- The running engine, or the reason why there is none. -/
def launch (answers : String → Bool) (env : String → Option String) (path : String)
    (file : Option Bytes) : Except Refusal Manager :=
  match Config.load env path file with
  | .error e => .error (.config e)
  | .ok settings =>
    if settings.database.isSome then .error .database
    else
      let m := startAll answers (.start (streamCapacity settings)) settings.watchers
      if m.chains.isEmpty then .error .noChain else .ok m

end VaultWatch.CommandLine
