import VaultWatch.Record

/-!
# Queries

What the engine asks a chain's nodes, with the kind of reply that each query has. `Inquiry` is a
piece of work that asks queries one after another, each chosen by the answers before it; it says
nothing about who answers, or how long that takes.
-/

namespace VaultWatch

/-- A query to a chain's nodes. -/
inductive Query where
  /-- The height of the chain's head. -/
  | height
  /-- The block of a height. -/
  | block (height : UInt64)
  /-- The receipt of a transaction. -/
  | receipt (hash : String)
  /-- The gas price that the node suggests. -/
  | gasPrice
  /-- Takes a signed payload and tells the hash of its transaction. -/
  | submit (payload : Bytes)
  /-- The node knows a transaction. -/
  | find (hash : String)
  /-- The next nonce of an address. -/
  | nonce (address : String)
  /-- The balance of an address. -/
  | balance (address : String)
  deriving DecidableEq, Repr

namespace Query

/-- What a query is answered with when all goes well. -/
abbrev Reply : Query → Type
  | height => UInt64
  | block _ => Block
  | receipt _ => Receipt
  | gasPrice => Nat
  | submit _ => String
  | find _ => Bool
  | nonce _ => UInt64
  | balance _ => Nat

/-- The outcome of a query. -/
abbrev Answer (q : Query) : Type := Except CallError q.Reply

end Query

/-- Work that asks queries one after another. -/
inductive Inquiry (α : Type) where
  | done (result : α)
  | ask (query : Query) (next : query.Answer → Inquiry α)

namespace Inquiry

variable {α β : Type}

/-- Goes on with the result of a piece of work. -/
def bind (work : Inquiry α) (next : α → Inquiry β) : Inquiry β :=
  match work with
  | done result => next result
  | ask query rest => ask query fun answer => (rest answer).bind next

instance : Monad Inquiry where
  pure := done
  bind := bind

/-- Asks one query. -/
def query (q : Query) : Inquiry q.Answer := ask q done

/-- The queries asked and the result, when every query is answered from a state that it may
change. -/
def run {σ : Type} (answer : (q : Query) → σ → q.Answer × σ) :
    Inquiry α → σ → List Query × α × σ
  | done result, s => ([], result, s)
  | ask q next, s =>
    let (a, s) := answer q s
    let (asked, result, s) := (next a).run answer s
    (q :: asked, result, s)

end Inquiry

end VaultWatch
