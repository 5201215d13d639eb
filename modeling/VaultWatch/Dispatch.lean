import VaultWatch.Query
import VaultWatch.Text.Ascii

/-!
# Dispatches

A signed payload that is handed over is read, checked against the sender's key if one is given and,
if asked for, against the sender's balance, and then submitted. A payload whose submission failed
counts as sent when the nodes know its transaction: an earlier submission has landed.
-/

namespace VaultWatch.Dispatch

/-- A public key belongs to the sender of a transaction. -/
def ownsKey (codec : Codec) (tx : DecodedTx) (key : String) : Bool :=
  match codec.addressOfPubKey key with
  | .ok address => Ascii.sameFold address tx.sender
  | .error _ => false

/-- The payload's transaction, if it can be read and belongs to the sender. The hash is known as
soon as the payload has been read. -/
def checked (codec : Codec) (request : Submission) : Except SubmissionReport DecodedTx :=
  match codec.readSigned request.rawTx with
  | .error _ => .error (.failed none .decode)
  | .ok tx =>
    if request.senderPubKey.all (ownsKey codec tx) then .ok tx
    else .error (.failed (some tx.hash) .decode)

/-- What the sender needs to have. -/
def needed (tx : DecodedTx) : Nat := saturate (tx.value + tx.maxFeeCost)

/-- The sender has what is needed. A failed query does not stand in the way. -/
def affords (tx : DecodedTx) : Inquiry Bool :=
  .ask (.balance tx.sender) fun
    | .ok balance => .done (needed tx ≤ balance)
    | .error _ => .done true

/-- The nodes know a transaction. -/
def isKnown (hash : String) : Inquiry Bool :=
  .ask (.find hash) fun
    | .ok found => .done found
    | .error _ => .done false

/-- Submits a payload whose transaction has been checked. -/
def submit (payload : Bytes) (tx : DecodedTx) : Inquiry SubmissionReport :=
  .ask (.submit payload) fun
    -- The node's word on the hash counts.
    | .ok hash => .done (.sent hash tx.deployedAddress)
    | .error e => do
      if ← isKnown tx.hash then return .sent tx.hash tx.deployedAddress
      else return .failed (some tx.hash) (.ofSubmitError e)

/-- Dispatches a request. -/
def dispatch (codec : Codec) (checkBalance : Bool) (request : Submission) :
    Inquiry SubmissionReport :=
  match checked codec request with
  | .error result => .done result
  | .ok tx =>
    if checkBalance then do
      if ← affords tx then submit request.rawTx tx
      else return .failed (some tx.hash) .insufficientBalance
    else submit request.rawTx tx

end VaultWatch.Dispatch
