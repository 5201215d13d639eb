import VaultWatch.Evm.Reply
import VaultWatch.Evm.Request

/-!
# Clients of EVM nodes

A client puts queries to one node over a transport that it is given: a function from requests to the
bodies of replies, which may fail. A query whose arguments make no sense is not sent.
-/

namespace VaultWatch.Evm

/-- A way to a node: the body of the reply to a request, or why there is none. -/
abbrev Transport := Request → Except String String

/-- Puts a query to the node at an endpoint. -/
def ask (endpoint : String) (transport : Transport) (query : Query) : query.Answer :=
  match request query with
  | .error e => .error (.decode e)
  | .ok request =>
    match transport request with
    | .error reason => .error (.rpc endpoint reason)
    | .ok body => answerOf endpoint query body

end VaultWatch.Evm
