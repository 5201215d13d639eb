import VaultWatch.Crypto.Keccak
import VaultWatch.Crypto.Secp256k1
import VaultWatch.Evm.Rlp
import VaultWatch.Record

/-!
# Signed payloads of EVM chains

A signed payload is a legacy transaction (a list), or a type byte `01` or `02` with a list behind
it. The sender is the key that the signature names on the digest of the fields without the
signature, written anew in canonical form. Addresses and hashes are shown as lower-case byte fields.
-/

namespace VaultWatch.Evm

/-! ### Addresses and hashes -/

/-- The address of a public key: the last 20 bytes of the digest of its coordinates. -/
def addressOfKey (key : Secp256k1.Point) : Bytes :=
  (Keccak.digest key.bytes).drop 12

/-- The address of the contract that a sender's transaction of the given nonce creates. -/
def createdAddress (sender : Bytes) (nonce : Nat) : Bytes :=
  (Keccak.digest (Rlp.encode (.list [.leaf sender, .ofNat nonce]))).drop 12

/-! ### Fields -/

/-- An address with storage keys that a transaction announces to use. -/
structure Access where
  address : Bytes
  keys : List Bytes
  deriving DecidableEq, Repr

/-- How a transaction bids for gas. -/
inductive Bid where
  | legacy (gasPrice : Nat)
  | accessList (gasPrice : Nat)
  | feeMarket (tip maxFee : Nat)
  deriving DecidableEq, Repr

/-- The signature fields: `v` tells which random point is meant and, for legacy transactions, the
chain's number. -/
structure SignatureFields where
  v : Nat
  r : Nat
  s : Nat
  deriving DecidableEq, Repr

/-- The fields of a transaction without its signature. A legacy transaction may go without the
chain's number. -/
structure TxFields where
  chainId : Option Nat
  nonce : Nat
  bid : Bid
  gas : Nat
  recipient : Option Bytes
  value : Nat
  data : Bytes
  accesses : List Access
  deriving DecidableEq, Repr

/-- The chain's number inside the `v` of a legacy transaction. -/
def chainIdOfV (v : Nat) : Option Nat :=
  if 35 ≤ v then some ((v - 35) / 2) else none

/-- What `v` tells about the random point, as a number below four whose low bit is the parity of
the ordinate and whose high bit tells that the abscissa was reduced. Below 27 and from 27 on it is
counted in fours; behind the chain's number there is the parity alone. -/
def pointMark (v : Nat) : Nat :=
  if v < 27 then v % 4 else if v < 35 then (v - 27) % 4 else (v - 1) % 2

/-- The signature with what its `v` tells. -/
def SignatureFields.signature (fields : SignatureFields) : Secp256k1.Signature :=
  let mark := pointMark fields.v
  ⟨fields.r, fields.s, mark % 2 = 1, 2 ≤ mark⟩

/-! ### Writing -/

/-- The access list as an item. -/
def accessItem (accesses : List Access) : Rlp :=
  .list (accesses.map fun a => .list [.leaf a.address, .list (a.keys.map .leaf)])

/-- The bytes that are signed: the fields in canonical form. A legacy transaction that names its
chain has the chain's number and two zeros at its end. -/
def TxFields.signedBytes (tx : TxFields) : Bytes :=
  let tail : List Rlp :=
    [.ofNat tx.gas, .leaf (tx.recipient.getD []), .ofNat tx.value, .leaf tx.data]
  let chain : Rlp := .ofNat (tx.chainId.getD 1)
  match tx.bid with
  | .legacy gasPrice =>
    let mark : List Rlp := match tx.chainId with
      | some id => [.ofNat id, .ofNat 0, .ofNat 0]
      | none => []
    Rlp.encode (.list ([.ofNat tx.nonce, .ofNat gasPrice] ++ tail ++ mark))
  | .accessList gasPrice =>
    0x01 :: Rlp.encode (.list ([chain, .ofNat tx.nonce, .ofNat gasPrice] ++ tail
      ++ [accessItem tx.accesses]))
  | .feeMarket tip maxFee =>
    0x02 :: Rlp.encode (.list ([chain, .ofNat tx.nonce, .ofNat tip, .ofNat maxFee] ++ tail
      ++ [accessItem tx.accesses]))

/-- The address that signed the fields. -/
def TxFields.signer? (tx : TxFields) (sig : SignatureFields) : Option Bytes :=
  let digest := Secp256k1.bigEndian (Keccak.digest tx.signedBytes)
  (sig.signature.recover? digest).map addressOfKey

/-! ### Reading -/

/-- A reader of fields: it takes the next field off the bytes that are left. -/
abbrev FieldReader := StateT Bytes Option

namespace FieldReader

/-- The next field as it stands. -/
def item : FieldReader Bytes := fun left => Rlp.next? left

/-- A number of at most so many bytes. -/
def nat (size : Nat) : FieldReader Nat := do
  let field ← item
  (Rlp.nat? size field : Option Nat)

/-- An address, or the empty string for none. -/
def recipient : FieldReader (Option Bytes) := do
  let field ← item
  if Rlp.isEmpty field then
    if Rlp.isList field then failure else return none
  else
    let address ← (Rlp.fixed? 20 field : Option Bytes)
    return some address

/-- The content of a field of either kind. -/
def content : FieldReader Bytes := do
  let field ← item
  (Rlp.content? field : Option Bytes)

end FieldReader

/-- An access list's entry: two fields, and what follows them is passed over. -/
def access? (entry : Bytes) : Option Access :=
  match Rlp.listItems entry with
  | address :: keys :: _ => do
    let address ← Rlp.fixed? 20 address
    let keys ← (Rlp.listItems keys).mapM (Rlp.fixed? 32)
    return ⟨address, keys⟩
  | _ => none

/-- The next field as an access list; something else than a list counts as the empty one. -/
def accesses : FieldReader (List Access) := do
  let field ← FieldReader.item
  ((Rlp.listItems field).mapM access? : Option (List Access))

/-- The signature fields. -/
def signatureFields : FieldReader SignatureFields := do
  let v ← FieldReader.nat 8
  let r ← FieldReader.nat 32
  let s ← FieldReader.nat 32
  return ⟨v, r, s⟩

/-- The fields of a legacy transaction with its signature. -/
def legacyFields : FieldReader (TxFields × SignatureFields) := do
  let nonce ← FieldReader.nat 32
  let gasPrice ← FieldReader.nat 32
  let gas ← FieldReader.nat 32
  let recipient ← FieldReader.recipient
  let value ← FieldReader.nat 32
  let data ← FieldReader.content
  let sig ← signatureFields
  return ({ chainId := chainIdOfV sig.v, nonce, bid := .legacy gasPrice, gas, recipient,
            value, data, accesses := [] }, sig)

/-- The fields of a transaction of type `01` with its signature. -/
def accessListFields : FieldReader (TxFields × SignatureFields) := do
  let chainId ← FieldReader.nat 8
  let nonce ← FieldReader.nat 32
  let gasPrice ← FieldReader.nat 32
  let gas ← FieldReader.nat 32
  let recipient ← FieldReader.recipient
  let value ← FieldReader.nat 32
  let data ← FieldReader.content
  let accesses ← accesses
  let sig ← signatureFields
  return ({ chainId := some chainId, nonce, bid := .accessList gasPrice, gas, recipient,
            value, data, accesses }, sig)

/-- The fields of a transaction of type `02` with its signature. -/
def feeMarketFields : FieldReader (TxFields × SignatureFields) := do
  let chainId ← FieldReader.nat 8
  let nonce ← FieldReader.nat 32
  let tip ← FieldReader.nat 32
  let maxFee ← FieldReader.nat 32
  let gas ← FieldReader.nat 32
  let recipient ← FieldReader.recipient
  let value ← FieldReader.nat 32
  let data ← FieldReader.content
  let accesses ← accesses
  let sig ← signatureFields
  return ({ chainId := some chainId, nonce, bid := .feeMarket tip maxFee, gas, recipient,
            value, data, accesses }, sig)

/-- Reads fields off a list; what stands behind them is passed over. -/
def readList {α : Type} (reader : FieldReader α) (list : Bytes) : Option α := do
  let behind ← Rlp.body? list
  let (found, _) ← reader behind
  return found

/-- The fields of a signed payload with its signature. -/
def signedFields? (payload : Bytes) : Option (TxFields × SignatureFields) :=
  match Rlp.content? payload with
  | none => none
  | some content =>
    -- The type byte is an item of its own, with the list behind it.
    if Rlp.isList payload then readList legacyFields payload
    else if content.head? = some 0x01 then readList accessListFields (payload.drop 1)
    else if content.head? = some 0x02 then readList feeMarketFields (payload.drop 1)
    else none

/-! ### The payload as a signed transaction -/

/-- The most that a unit of gas may cost. -/
def Bid.maxPrice : Bid → Nat
  | .legacy gasPrice => gasPrice
  | .accessList gasPrice => gasPrice
  | .feeMarket _ maxFee => maxFee

/-- The most that a transaction's gas may cost: a product that stops at the largest 256-bit number,
cut down to an amount. -/
def TxFields.maxFeeCost (tx : TxFields) : Nat :=
  saturate (min (tx.gas * tx.bid.maxPrice) ((1 <<< 256) - 1))

/-- Reads a signed payload. Its hash is the digest of all its bytes. -/
def readSigned (payload : Bytes) : Except PayloadError DecodedTx :=
  if payload.isEmpty then .error .empty
  else
    match signedFields? payload with
    | none => .error (.transaction "the fields cannot be read")
    | some (tx, sig) =>
      match tx.signer? sig with
      | none => .error (.transaction "the signature names no key")
      | some sender =>
        .ok {
          hash := Hex.field (Keccak.digest payload)
          sender := Hex.field sender
          recipient := tx.recipient.map Hex.field
          nonce := UInt64.ofNat tx.nonce
          value := saturate tx.value
          maxFeeCost := tx.maxFeeCost
          deployedAddress :=
            if tx.recipient.isSome then none
            else some (Hex.field (createdAddress sender tx.nonce)) }

/-- The address of a public key written as hexadecimal text, with any number of `0x` in front. -/
def addressOfPubKey (text : String) : Except PayloadError String :=
  match Hex.ofDigits? (Hex.stripMarks text.toList) with
  | none => .error (.publicKey "not hexadecimal text")
  | some bytes =>
    match Secp256k1.publicKey? bytes with
    | none => .error (.publicKey "not a point of the curve")
    | some key => .ok (Hex.field (addressOfKey key))

/-- Signed payloads and public keys of EVM chains. -/
def codec : Codec := ⟨readSigned, addressOfPubKey⟩

end VaultWatch.Evm
