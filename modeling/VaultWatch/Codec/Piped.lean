import VaultWatch.Record
import VaultWatch.Text.Search
import VaultWatch.Text.Utf8

/-!
# Piped payloads

A plain format for rehearsing dispatches without keys: a signed payload is the text
`sender|recipient|nonce|value|fee`, its hash is the byte field of its own bytes, and the public key
of `name` is `pk:name`. An empty recipient is a contract creation, whose address is made of the
sender and the nonce.
-/

namespace VaultWatch.Piped

/-- A number below `2 ^ 128` in decimal digits, with or without a plus sign. -/
def amount? (text : List Char) : Option Nat :=
  let digits := match text with
    | '+' :: rest => rest
    | text => text
  if digits ≠ [] ∧ digits.all Char.isDigit then
    let value := digits.foldl (fun acc c => 10 * acc + (c.toNat - '0'.toNat)) 0
    if value ≤ maxAmount then some value else none
  else none

/-- A number, or the error that names what stands in its place. -/
def amount (text : List Char) : Except PayloadError Nat :=
  match amount? text with
  | some value => .ok value
  | none => .error (.transaction ("bad number " ++ String.ofList text))

/-- Reads a piped payload. The nonce is cut to 64 bits. -/
def readSigned (payload : Bytes) : Except PayloadError DecodedTx :=
  if payload.isEmpty then .error .empty
  else
    match Utf8.decodeFrom 0 payload with
    | .error fault => .error (.transaction fault.message)
    | .ok text =>
      match Search.split '|' text with
      | [sender, recipient, nonce, value, fee] => do
        let nonce ← amount nonce
        let value ← amount value
        let fee ← amount fee
        let sender := String.ofList sender
        let nonce := UInt64.ofNat nonce
        return {
          hash := Hex.field payload
          sender
          recipient := if recipient.isEmpty then none else some (String.ofList recipient)
          nonce
          value
          maxFeeCost := fee
          deployedAddress :=
            if recipient.isEmpty then some (sender ++ "-" ++ toString nonce.toNat) else none }
      | parts =>
        .error (.transaction ("expected 5 fields, got " ++ toString parts.length))

/-- The name behind a public key. -/
def addressOfPubKey (key : String) : Except PayloadError String :=
  match key.toList with
  | 'p' :: 'k' :: ':' :: name => .ok (String.ofList name)
  | _ => .error (.publicKey key)

/-- Piped payloads and their keys. -/
def codec : Codec := ⟨readSigned, addressOfPubKey⟩

end VaultWatch.Piped
