import VaultWatch.Pool
import VaultWatch.Rehearsal.Node

/-!
# Queries under way

In a rehearsal a query takes time: it reaches its node at once, and the answer comes back after the
node's latency, or not within the limit. A call is a query that walks the endpoints of a pool; a
probe is a query for the height that tells whether an endpoint is healthy.
-/

namespace VaultWatch.Rehearsal

/-! ### Nodes by address -/

/-- The nodes of a rehearsal by address. -/
abbrev Nodes := List (String × Node)

namespace Nodes

/-- The node at an address. -/
def find? (nodes : Nodes) (url : String) : Option Node := nodes.lookup url

/-- Puts a node in place of the one at an address. -/
def put (nodes : Nodes) (url : String) (node : Node) : Nodes :=
  nodes.map fun e => if e.1 = url then (url, node) else e

end Nodes

/-! ### One query -/

/-- A query under way to one endpoint. It comes back at `arrival`, with an answer or, if that would
take longer than the limit, without. -/
structure Flight (query : Query) where
  url : String
  limit : Nat
  arrival : Nat
  timesOut : Bool
  canned : Option Canned

/-- The failure of a call to an address where there is no node. -/
def unknownAddress (url : String) : CallError := .rpc url "dns error"

/-- Sends a query to an endpoint. An answer that comes exactly at the limit is in time. -/
def Nodes.depart (nodes : Nodes) (now limit : Nat) (url : String) (query : Query) :
    Flight query × Nodes :=
  match nodes.find? url with
  | none => (⟨url, limit, now, false, some (.failure (unknownAddress url))⟩, nodes)
  | some node =>
    let ((delay, canned), node) := node.called now query
    (⟨url, limit, now + min delay limit, limit < delay, canned⟩, nodes.put url node)

/-- The query comes back. -/
def Flight.land {query : Query} (flight : Flight query) (nodes : Nodes) : query.Answer × Nodes :=
  if flight.timesOut then
    (.error (.timeout flight.url (.ofMillis flight.limit)), nodes)
  else
    match nodes.find? flight.url with
    | none => (.error (unknownAddress flight.url), nodes)
    | some node =>
      let (answer, node) := node.answered query flight.canned
      (answer, nodes.put flight.url node)

/-! ### Calls -/

/-- A call under way: the query at one endpoint, and the walk behind it. -/
structure Call (query : Query) where
  flight : Flight query
  walk : Walk

/-- How far a call has come. -/
inductive Progress (query : Query) where
  | waiting (call : Call query)
  | ended (answer : query.Answer)

/-- Follows a walk as long as the answers come at once. `fuel` is at least the number of endpoints
that are left. -/
def Nodes.follow (now limit : Nat) (query : Query) :
    (fuel : Nat) → Walk.Turn query.Reply → Nodes → Progress query × Nodes
  | _, .ends outcome, nodes => (.ended outcome, nodes)
  | 0, .asks _ walk, nodes => (.ended (.error walk.exhausted), nodes)
  | fuel + 1, .asks url walk, nodes =>
    let (flight, nodes) := nodes.depart now limit url query
    if flight.arrival ≤ now then
      let (answer, nodes) := flight.land nodes
      follow now limit query fuel (walk.heard answer) nodes
    else (.waiting ⟨flight, walk⟩, nodes)

/-- Begins a call to a pool. -/
def Nodes.call (nodes : Nodes) (now limit : Nat) (pool : Pool) (query : Query) :
    Progress query × Nodes :=
  let walk := Walk.start pool.chain pool.healthyUrls
  nodes.follow now limit query (walk.ahead.length + 1) walk.next

/-- Goes on with a call whose query comes back now. -/
def Call.landed {query : Query} (call : Call query) (now : Nat) (nodes : Nodes) :
    Progress query × Nodes :=
  let (answer, nodes) := call.flight.land nodes
  nodes.follow now call.flight.limit query (call.walk.ahead.length + 1) (call.walk.heard answer)

/-! ### Probes -/

/-- A target of a refresh: it could not be connected, is being probed, or has been probed. -/
inductive Probe where
  | unconnected
  | flying (flight : Flight .height)
  | probed (healthy : Bool)

/-- The targets of a refresh by address. -/
abbrev Probes := List (String × Probe)

/-- Takes in the outcome of a probe that comes back now. -/
def Probe.landed (now : Nat) (nodes : Nodes) : Probe → Probe × Nodes
  | .flying flight =>
    if flight.arrival ≤ now then
      let (answer, nodes) := flight.land nodes
      (.probed answer.isOk, nodes)
    else (.flying flight, nodes)
  | probe => (probe, nodes)

/-- Begins to probe a target. -/
def Nodes.probe (nodes : Nodes) (now limit : Nat) (url : String) : Probe × Nodes :=
  match nodes.find? url with
  | none => (.unconnected, nodes)
  | some _ =>
    let (flight, nodes) := nodes.depart now limit url .height
    Probe.landed now nodes (.flying flight)

namespace Probes

/-- Begins to probe some targets, all at the same time. -/
def start (now limit : Nat) : List String → Nodes → Probes × Nodes
  | [], nodes => ([], nodes)
  | url :: rest, nodes =>
    let (probe, nodes) := nodes.probe now limit url
    let (probes, nodes) := start now limit rest nodes
    ((url, probe) :: probes, nodes)

/-- Takes in the outcomes of all probes that come back now. -/
def landed (now : Nat) : Probes → Nodes → Probes × Nodes
  | [], nodes => ([], nodes)
  | (url, probe) :: rest, nodes =>
    let (probe, nodes) := probe.landed now nodes
    let (probes, nodes) := landed now rest nodes
    ((url, probe) :: probes, nodes)

/-- The times at which probes come back. -/
def arrivals (probes : Probes) : List Nat :=
  probes.filterMap fun
    | (_, .flying flight) => some flight.arrival
    | _ => none

/-- What the probes have said, once all of them are back. -/
def outcomes? (probes : Probes) : Option (List (String × Option Bool)) :=
  probes.mapM fun
    | (_, .flying _) => none
    | (url, .unconnected) => some (url, none)
    | (url, .probed healthy) => some (url, some healthy)

end Probes

end VaultWatch.Rehearsal
