import VaultWatch.Duration
import VaultWatch.Text.Search

/-!
# Errors

What can go wrong, as causes, and the wording of each cause. `PayloadError` is a payload that cannot
be read, `CallError` the failure of a call to a chain's nodes, `ServiceError` the failure of an
operation of the engine, and `DispatchFault` the category that a failed dispatch reports.

Main statements: a wrapper for a call that failed on every endpoint shows through to the cause
underneath (`CallError.innermostText_everyEndpointFailed`), so it never changes the category of a
failed submission (`DispatchFault.ofSubmitError_everyEndpointFailed`).
-/

namespace VaultWatch

/-! ### Payloads -/

/-- A payload that cannot be read. -/
inductive PayloadError where
  | empty
  | transaction (text : String)
  | block (text : String)
  | address (text : String)
  | publicKey (text : String)
  deriving DecidableEq, Repr

/-- The wording of a payload error. -/
def PayloadError.message : PayloadError → String
  | .empty => "empty payload"
  | .transaction text => "malformed transaction: " ++ text
  | .block text => "malformed block: " ++ text
  | .address text => "invalid address " ++ text
  | .publicKey text => "invalid public key: " ++ text

/-! ### Calls to nodes -/

/-- The failure of a call to a chain's nodes. -/
inductive CallError where
  /-- The block or receipt is not there yet. -/
  | notFound
  /-- The call did not get through. -/
  | rpc (endpoint message : String)
  /-- The node did not answer in time. -/
  | timeout (endpoint : String) (after : Duration)
  /-- There was no healthy endpoint to call. -/
  | noHealthyEndpoint (chain : String)
  /-- Every healthy endpoint was tried and failed; the last failure is kept. -/
  | everyEndpointFailed (chain : String) (last : CallError)
  /-- The answer cannot be read. -/
  | decode (cause : PayloadError)
  /-- The node answered and refused the request. -/
  | rejected (message : String)
  deriving DecidableEq, Repr

namespace CallError

/-- The wording of a call's failure. -/
def message : CallError → String
  | .notFound => "not found"
  | .rpc endpoint text => "rpc error from " ++ endpoint ++ ": " ++ text
  | .timeout endpoint after => "rpc call to " ++ endpoint ++ " timed out after " ++ after.text
  | .noHealthyEndpoint chain => "no healthy endpoint for chain " ++ chain
  | .everyEndpointFailed chain _ => "no healthy endpoint for chain " ++ chain
  | .decode cause => "decode error: " ++ cause.message
  | .rejected text => "rejected by node: " ++ text

/-- The failure says nothing about the request, so that another endpoint may still answer. -/
def othersMayAnswer : CallError → Bool
  | .rpc .. | .timeout .. | .noHealthyEndpoint _ | .everyEndpointFailed .. => true
  | .notFound | .decode _ | .rejected _ => false

/-- The innermost text: a node's own words where there are any. -/
def innermostText : CallError → String
  | .everyEndpointFailed _ last => last.innermostText
  | .rpc _ text => text
  | .rejected text => text
  | other => other.message

/-- The wordings of the causes underneath, from the outside in. -/
def causes : CallError → List String
  | .decode cause => [cause.message]
  | .everyEndpointFailed _ last => last.message :: last.causes
  | _ => []

@[simp] theorem innermostText_everyEndpointFailed (chain : String) (last : CallError) :
    (everyEndpointFailed chain last).innermostText = last.innermostText := rfl

end CallError

/-! ### The engine -/

/-- The failure of an operation of the engine. -/
inductive ServiceError where
  | config (text : String)
  | database (text : String)
  | startup (chain : String) (source : ServiceError)
  | chainNotFound (chain : String)
  | call (cause : CallError)
  | internal (text : String)
  deriving DecidableEq, Repr

namespace ServiceError

/-- The wording of an operation's failure; a failed call keeps its own. -/
def message : ServiceError → String
  | .config text => "Configuration error: " ++ text
  | .database text => "Database error: " ++ text
  | .startup chain source => "Chain " ++ chain ++ " failed to start: " ++ source.message
  | .chainNotFound chain => "Chain " ++ chain ++ " not found"
  | .call cause => cause.message
  | .internal text => "Internal error: " ++ text

/-- The wordings of the causes underneath, from the outside in. A failed call is not its own
cause. -/
def causes : ServiceError → List String
  | .startup _ source => source.message :: source.causes
  | .call cause => cause.causes
  | _ => []

end ServiceError

/-! ### Dispatches -/

/-- The category that a failed dispatch reports. -/
inductive DispatchFault where
  | decode
  | insufficientBalance
  | nonceConflict
  | submitFailed
  | chainNotFound
  deriving DecidableEq, Repr

namespace DispatchFault

/-- The category's name in records and counters. -/
def name : DispatchFault → String
  | .decode => "decode"
  | .insufficientBalance => "insufficient_balance"
  | .nonceConflict => "nonce_conflict"
  | .submitFailed => "submit_failed"
  | .chainNotFound => "chain_not_found"

/-- All categories. -/
def all : List DispatchFault :=
  [.decode, .insufficientBalance, .nonceConflict, .submitFailed, .chainNotFound]

/-- The category of a node's words about a submission. The phrases looked for are ASCII, and no
character beyond ASCII can take part in a match, so that making ASCII letters small is enough. -/
def ofNodeText (text : String) : DispatchFault :=
  let small := text.toList.map Char.toLower
  let mentions (words : String) := Search.contains words.toList small
  if mentions "insufficient funds" then .insufficientBalance
  else if mentions "nonce too low" || mentions "nonce too high"
      || mentions "replacement transaction underpriced" then .nonceConflict
  else .submitFailed

/-- The category of a failed submission. -/
def ofSubmitError (e : CallError) : DispatchFault :=
  ofNodeText e.innermostText

theorem ofSubmitError_everyEndpointFailed (chain : String) (last : CallError) :
    ofSubmitError (.everyEndpointFailed chain last) = ofSubmitError last := rfl

end DispatchFault

end VaultWatch
