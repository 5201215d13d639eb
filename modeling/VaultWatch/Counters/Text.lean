import VaultWatch.Counters
import VaultWatch.Decimal.Shortest

/-!
# The text of the counters

Counters are read in families. Each family has a name, a line of help, a kind, and one line per
series with its labels and its value. Families are in the order of their names, series in the order
of their label values; a family without series is left out. Values are doubles.
-/

namespace VaultWatch.Counters

/-! ### Families -/

/-- Whether the values of a family only grow. -/
inductive Kind where
  | gauge
  | counter
  deriving DecidableEq, Repr

/-- The name of a kind. -/
def Kind.name : Kind → String
  | .gauge => "gauge"
  | .counter => "counter"

/-- One line of a family: the label values and the value. -/
abbrev Sample := List String × Double

/-- A family of series. -/
structure Family where
  name : String
  help : String
  kind : Kind
  labels : List String
  samples : List Sample

/-- A double as a value in seconds: whole seconds and a fraction are rounded one by one. -/
def seconds (ms : Nat) : Double :=
  -- Three roundings: of either part, and of their sum.
  (Double.ofNat (ms / 1000)).add (Double.nearest (ms % 1000) 1000)

/-- A number by chain. -/
def byChain (s : Series String) (value : Nat → Double) : List Sample :=
  s.map fun e => ([e.1], value e.2)

/-- A number by chain and something named. -/
def byChainAnd {κ : Type} (name : κ → String) (s : Series (String × κ)) : List Sample :=
  s.map fun e => ([e.1.1, name e.1.2], Double.ofNat e.2)

/-- The name of a dispatch's outcome. -/
def outcomeName (fault : Option DispatchFault) : String :=
  match fault with
  | some fault => fault.name
  | none => "success"

/-- All families in the order of their names. -/
def families (c : Counters) : List Family :=
  [ ⟨"vault_observer_block_height", "Last block height fetched per chain", .gauge, ["chain"],
      byChain c.blockHeight Double.ofNat⟩,
    ⟨"vault_observer_dispatches_total", "Dispatch requests by outcome", .counter,
      ["chain", "outcome"], byChainAnd outcomeName c.dispatches⟩,
    ⟨"vault_observer_healthy_endpoints", "Healthy RPC endpoints after the last pool refresh",
      .gauge, ["chain"], byChain c.healthyEndpoints Double.ofNat⟩,
    ⟨"vault_observer_matched_transactions_total", "Transactions sent to the vault", .counter,
      ["chain"], byChain c.matched Double.ofNat⟩,
    ⟨"vault_observer_poll_interval_seconds", "Current adaptive polling interval per chain", .gauge,
      ["chain"], byChain c.pollInterval seconds⟩,
    ⟨"vault_observer_receipts_total", "Receipt lookups by outcome", .counter, ["chain", "outcome"],
      byChainAnd ReceiptFate.name c.receipts⟩,
    ⟨"vault_observer_track_updates_total", "Tracked transaction outcomes", .counter,
      ["chain", "result"], byChainAnd Ending.name c.trackUpdates⟩ ]

/-! ### Lines -/

/-- A label value between its quotes. -/
def escapeChar (c : Char) : List Char :=
  if c = '\\' then ['\\', '\\']
  else if c = '"' then ['\\', '"']
  else if c = '\n' then ['\\', 'n']
  else [c]

/-- A label with its value. -/
def labelText (label value : String) : List Char :=
  label.toList ++ ['=', '"'] ++ value.toList.flatMap escapeChar ++ ['"']

/-- The line of a sample. -/
def sampleLine (family : Family) (sample : Sample) : String :=
  let labels := family.labels.zipWith labelText sample.1
  family.name ++
    String.ofList ('\x7b' :: [','].intercalate labels ++ ['\x7d', ' ']) ++ sample.2.text

/-- Label values are compared one after another, each by its characters. -/
def lessOrEqual : List String → List String → Bool
  | [], _ => true
  | _ :: _, [] => false
  | a :: as, b :: bs => if a = b then lessOrEqual as bs else a < b

/-- The lines of a family in the order of the label values. -/
def Family.lines (family : Family) : List String :=
  (family.samples.mergeSort fun a b => lessOrEqual a.1 b.1).map (sampleLine family)

/-- The lines of all series. -/
def lines (c : Counters) : List String := c.families.flatMap Family.lines

/-- What stands above the lines of a family. -/
def Family.heading (family : Family) : List String :=
  ["# HELP " ++ family.name ++ " " ++ family.help,
   "# TYPE " ++ family.name ++ " " ++ family.kind.name]

/-- The whole text of the counters. -/
def exposition (c : Counters) : String :=
  let written (family : Family) : List String :=
    if family.samples.isEmpty then [] else family.heading ++ family.lines
  String.join ((c.families.flatMap written).map (· ++ "\n"))

end VaultWatch.Counters
