import VaultWatch.Query

/-!
# Endpoint pools

A chain is reached through several endpoints. A refresh connects and probes all of them and replaces
the list as a whole. A call walks the healthy endpoints in some order until one gives an answer that
says something about the request: failures of transport move on to the next one.
-/

namespace VaultWatch

/-- An endpoint that was connected, and what its last probe said. -/
structure Endpoint where
  url : String
  healthy : Bool
  deriving DecidableEq, Repr

/-- The endpoints of a chain: the configured addresses, and those connected by the last refresh. -/
structure Pool where
  chain : String
  urls : List String
  endpoints : List Endpoint
  deriving DecidableEq, Repr

/-- A list without the later occurrences of its members. -/
def distinct {α : Type} [DecidableEq α] (items : List α) : List α :=
  items.foldl (fun kept item => if item ∈ kept then kept else kept ++ [item]) []

namespace Pool

/-- A pool that has not been refreshed yet. -/
def unconnected (chain : String) (urls : List String) : Pool := ⟨chain, urls, []⟩

/-! ### Refreshing -/

/-- The addresses to connect: the configured ones and then those discovered, each once. -/
def targets (p : Pool) (discovered : List String) : List String :=
  distinct (p.urls ++ discovered)

/-- The number of healthy endpoints. -/
def numHealthy (p : Pool) : Nat := p.endpoints.countP (·.healthy)

/-- The outcome of a refresh. Each target comes with what its probe said, or with nothing if it
could not be connected. When nothing could be connected the old endpoints stay. -/
def refreshed (p : Pool) (probes : List (String × Option Bool)) : Except CallError Nat × Pool :=
  let endpoints := probes.filterMap fun probe => probe.2.map (Endpoint.mk probe.1)
  -- An endpoint that did not answer its probe stays in the list, only not healthy.
  if endpoints.isEmpty then (.error (.noHealthyEndpoint p.chain), p)
  else
    let p := { p with endpoints }
    (.ok p.numHealthy, p)

/-! ### Calling -/

/-- The addresses of the healthy endpoints. -/
def healthyUrls (p : Pool) : List String :=
  (p.endpoints.filter (·.healthy)).map (·.url)

/-- The first healthy endpoint. -/
def healthyUrl? (p : Pool) : Option String := p.healthyUrls.head?

/-- Some endpoint is healthy. -/
def isHealthy (p : Pool) : Bool := p.healthyUrl?.isSome

end Pool

/-! ### Walks -/

/-- A call on its way: the endpoints that have not been asked yet, and the failure of the one asked
last. -/
structure Walk where
  chain : String
  ahead : List String
  last : Option CallError
  deriving DecidableEq, Repr

namespace Walk

variable {α : Type}

/-- What a walk comes to: the next endpoint to ask, or the outcome of the call. -/
inductive Turn (α : Type) where
  | asks (url : String) (walk : Walk)
  | ends (outcome : Except CallError α)

/-- A walk through endpoints in the given order. -/
def start (chain : String) (order : List String) : Walk := ⟨chain, order, none⟩

/-- The failure of a walk that has no endpoint left. -/
def exhausted (w : Walk) : CallError :=
  match w.last with
  | some e => .everyEndpointFailed w.chain e
  | none => .noHealthyEndpoint w.chain

/-- Turns to the next endpoint. -/
def next (w : Walk) : Turn α :=
  match w.ahead with
  | url :: ahead => .asks url { w with ahead }
  | [] => .ends (.error w.exhausted)

/-- Takes in the outcome of the endpoint asked last. -/
def heard (w : Walk) (outcome : Except CallError α) : Turn α :=
  match outcome with
  | .ok value => .ends (.ok value)
  | .error e => if e.othersMayAnswer then { w with last := some e }.next else .ends (.error e)

/-- The endpoints asked and the outcome, when the outcome at each endpoint is known. -/
def run (outcome : String → Except CallError α) (chain : String) (last : Option CallError) :
    List String → List String × Except CallError α
  | [] => ([], .error (exhausted ⟨chain, [], last⟩))
  | url :: ahead =>
    match outcome url with
    | .ok value => ([url], .ok value)
    | .error e =>
      if e.othersMayAnswer then
        let (asked, result) := run outcome chain (some e) ahead
        (url :: asked, result)
      else ([url], .error e)

end Walk

/-- A call to the healthy endpoints in the given order: the endpoints asked and the outcome. An
endpoint that does not answer within the limit has timed out. -/
def Pool.call {α : Type} (p : Pool) (limit : Duration) (order : List String)
    (behaviour : String → Option (Except CallError α)) : List String × Except CallError α :=
  Walk.run (fun url => (behaviour url).getD (.error (.timeout url limit))) p.chain none order

end VaultWatch
