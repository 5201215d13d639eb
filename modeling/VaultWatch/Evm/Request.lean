import VaultWatch.Json.Value
import VaultWatch.Query

/-!
# Requests to EVM nodes

How a query is put to an EVM node: the method and its parameters. Hashes and addresses must have
their full length of hexadecimal digits, with or without a mark and with blanks anywhere behind it,
and are sent in lower case with one; numbers are sent as hexadecimal quantities without leading
zeros.
-/

namespace VaultWatch.Evm

/-- A request to a node. -/
structure Request where
  method : String
  params : Option (List Json)

/-- The bytes of a text with exactly so many of them in hexadecimal digits. One leading `0x` may
stand in front, and blanks between and behind the digits do not count. -/
def exactBytes? (length : Nat) (text : String) : Option Bytes :=
  let digits := (Hex.stripMark text.toList).filter (!Hex.isBlank ·)
  (Hex.ofDigits? digits).filter fun bytes => bytes.length = length

/-- The hash that a text stands for. -/
def hashArgument (text : String) : Except PayloadError String :=
  match exactBytes? 32 text with
  | some bytes => .ok (Hex.field bytes)
  | none => .error (.transaction ("bad hash " ++ text))

/-- The address that a text stands for. -/
def addressArgument (text : String) : Except PayloadError String :=
  match exactBytes? 20 text with
  | some bytes => .ok (Hex.field bytes)
  | none => .error (.address text)

/-- A number as a quantity. -/
def quantity (value : Nat) : String :=
  String.ofList ('0' :: 'x' :: Nat.toDigits 16 value)

/-- The block to which questions about an address refer. -/
def latest : Json := .string "latest"

/-- How a query is put to a node. -/
def request : Query → Except PayloadError Request
  | .height => .ok ⟨"eth_blockNumber", none⟩
  | .gasPrice => .ok ⟨"eth_gasPrice", none⟩
  | .block height =>
    .ok ⟨"eth_getBlockByNumber", some [.string (quantity height.toNat), .bool true]⟩
  | .receipt hash => do
    return ⟨"eth_getTransactionReceipt", some [.string (← hashArgument hash)]⟩
  | .submit payload => .ok ⟨"eth_sendRawTransaction", some [.string (Hex.field payload)]⟩
  | .find hash => do
    return ⟨"eth_getTransactionByHash", some [.string (← hashArgument hash)]⟩
  | .nonce address => do
    return ⟨"eth_getTransactionCount", some [.string (← addressArgument address), latest]⟩
  | .balance address => do
    return ⟨"eth_getBalance", some [.string (← addressArgument address), latest]⟩

end VaultWatch.Evm
