import VaultWatch.Json.Value
import VaultWatch.Manager

/-!
# Status pages

Three pages tell how the engine is doing: `/health` that it is there, `/ready` whether the store and
every chain can be reached, and `/chains` the status of each chain. They can be read and not
written. A target may name the scheme and the host too, and these, like what follows a question
mark, are of no account.
-/

namespace VaultWatch.Api

/-- The answer to a request. -/
structure Response where
  status : Nat
  body : Option Json

/-- The version that the engine tells. -/
def version : String := "0.1.0"

/-- The page that tells that the engine is there, and for how many seconds. -/
def healthPage (uptime : Nat) : Response :=
  ⟨200, some (.record [("status", .string "ok"), ("version", .string version),
    ("uptime_seconds", .ofNat uptime)])⟩

/-- The page that tells whether the engine can do its work. An engine without chains cannot. -/
def readyPage (m : Manager) : Response :=
  let store := m.hub.checkHealth.isOk
  let health := m.health
  let chains := !health.isEmpty && health.all (·.2)
  let ready := store && chains
  let details := health.map fun e => Json.record [("chain", .string e.1), ("healthy", .bool e.2)]
  ⟨if ready then 200 else 503, some (.record [("ready", .bool ready), ("store", .bool store),
    ("chains", .bool chains), ("details", .array details)])⟩

/-- The status of a chain as JSON. -/
def statusJson (s : WatcherSummary) : Json := .record
  [("chain", .string s.chain), ("cursor", .ofNat s.cursor.toNat),
   ("poll_interval_ms", .ofNat s.pollInterval), ("healthy_endpoints", .ofNat s.healthyEndpoints),
   ("endpoints", .ofNat s.endpoints), ("tracked", .ofNat s.tracked), ("vault", .ofText? s.vault)]

/-- The page with the status of each chain. -/
def chainsPage (m : Manager) : Response :=
  ⟨200, some (.record [("chains", .array (m.summaries.map statusJson))])⟩

/-- The page at a path. -/
def page? (m : Manager) (uptime : Nat) (path : String) : Option Response :=
  if path = "/health" then some (healthPage uptime)
  else if path = "/ready" then some (readyPage m)
  else if path = "/chains" then some (chainsPage m)
  else none

/-- Drops the scheme and the host of a target that is written in full. None if there are none. -/
def behindHost? : List Char → Option (List Char)
  | ':' :: '/' :: '/' :: rest => some (rest.dropWhile fun c => c != '/' && c != '?' && c != '#')
  | c :: rest => if c = '/' ∨ c = '?' ∨ c = '#' then none else behindHost? rest
  | [] => none

/-- The path of a target without what follows it. A target written in full has one, be it empty. -/
def pathOf (target : String) : String :=
  let text := target.toList
  String.ofList (((behindHost? text).getD text).takeWhile fun c => c != '?' && c != '#')

/-- Answers a request for a target. A request for the head of a page gets its status alone. -/
def respond (m : Manager) (uptime : Nat) (method target : String) : Response :=
  match page? m uptime (pathOf target) with
  | none => ⟨404, none⟩
  | some response =>
    if method = "GET" then response
    else if method = "HEAD" then ⟨response.status, none⟩
    else ⟨405, none⟩

end VaultWatch.Api
