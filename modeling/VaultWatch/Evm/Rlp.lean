import VaultWatch.Text.Hex

/-!
# Recursive length encoding

The byte format of transactions: an item is a string of bytes or a list of items, and a header says
which and how long. The writer gives each item its one canonical form. The reader here is the
lenient one that nodes and wallets share: it reads the fields of a list one after another from the
bytes behind the list's header, and says for each field what it will take.
-/

namespace VaultWatch

/-- A string of bytes or a list of items. -/
inductive Rlp where
  | leaf (content : Bytes)
  | list (items : List Rlp)

namespace Rlp

/-! ### Writing -/

/-- A number as bytes, highest first, without leading zeros; zero has none. -/
def natBytes (k : Nat) : Bytes :=
  if h : k = 0 then []
  else
    have : k / 256 < k := Nat.div_lt_self (Nat.pos_of_ne_zero h) (by decide)
    natBytes (k / 256) ++ [UInt8.ofNat (k % 256)]
termination_by k

/-- A number as an item. -/
def ofNat (k : Nat) : Rlp := .leaf (natBytes k)

/-- The header of a content of the given length; `base` is `80` for strings and `C0` for lists. -/
def header (base length : Nat) : Bytes :=
  if length ≤ 55 then [UInt8.ofNat (base + length)]
  else
    let size := natBytes length
    UInt8.ofNat (base + 55 + size.length) :: size

/-- A string with its header; a single byte below `80` is its own item. -/
def encodeBytes (content : Bytes) : Bytes :=
  match content with
  | [b] => if b < 0x80 then [b] else header 0x80 1 ++ [b]
  | _ => header 0x80 content.length ++ content

mutual

/-- The bytes of an item. -/
def encode : Rlp → Bytes
  | .leaf content => encodeBytes content
  | .list items =>
    let content := encodeAll items
    header 0xC0 content.length ++ content

/-- The bytes of items in a row. -/
def encodeAll : List Rlp → Bytes
  | [] => []
  | item :: rest => encode item ++ encodeAll rest

end

/-! ### Reading headers -/

/-- The kind and extent of the item at the front of some bytes. -/
structure Extent where
  isList : Bool
  headerLength : Nat
  contentLength : Nat

/-- The length of a whole item. -/
def Extent.total (e : Extent) : Nat := e.headerLength + e.contentLength

/-- The extent that a long header announces: its length has no leading zero and is more than a
short header could say. -/
def longExtent? (isList : Bool) (lengthBytes : Nat) (rest : Bytes) : Option Extent :=
  let size := rest.take lengthBytes
  let length := size.foldl (fun acc b => 256 * acc + b.toNat) 0
  if rest.head? = some 0 ∨ size.length < lengthBytes ∨ length ≤ 55 then none
  else some ⟨isList, 1 + lengthBytes, length⟩

/-- The extent of the item at the front, which must be there in full. -/
def extent? (bytes : Bytes) : Option Extent :=
  let found : Option Extent := match bytes with
    | [] => none
    | b :: rest =>
      let b := b.toNat
      if b ≤ 0x7F then some ⟨false, 0, 1⟩
      else if b ≤ 0xB7 then some ⟨false, 1, b - 0x80⟩
      else if b ≤ 0xBF then longExtent? false (b - 0xB7) rest
      else if b ≤ 0xF7 then some ⟨true, 1, b - 0xC0⟩
      else longExtent? true (b - 0xF7) rest
  -- Whatever the header says, the content has to be there.
  match found with
  | some e => if e.total ≤ bytes.length then some e else none
  | none => none

/-- The content of the item at the front, of either kind. -/
def content? (bytes : Bytes) : Option Bytes :=
  (extent? bytes).map fun e => (bytes.drop e.headerLength).take e.contentLength

/-- The item at the front is a list. -/
def isList (bytes : Bytes) : Bool :=
  match bytes with
  | b :: _ => 0xC0 ≤ b
  | [] => false

/-- The item at the front is the empty string or the empty list. -/
def isEmpty (bytes : Bytes) : Bool :=
  match bytes with
  | b :: _ => b == 0x80 || b == 0xC0
  | [] => false

/-- The content of an item that must be a string; a byte that stands for itself may not carry a
header. -/
def string? (item : Bytes) : Option Bytes :=
  match extent? item, content? item with
  | some e, some content =>
    if e.isList then none
    else match item, content with
      | 0x81 :: _, b :: _ => if b < 0x80 then none else some content
      | _, _ => some content
  | _, _ => none

/-- The number of at most `size` bytes that a string item stands for; leading zeros are refused. -/
def nat? (size : Nat) (item : Bytes) : Option Nat :=
  match string? item with
  | some content =>
    if content.head? = some 0 ∨ size < content.length then none
    else some (content.foldl (fun acc b => 256 * acc + b.toNat) 0)
  | none => none

/-- The content of a string item that must have the given length. -/
def fixed? (size : Nat) (item : Bytes) : Option Bytes :=
  match string? item with
  | some content => if content.length = size then some content else none
  | none => none

/-! ### Reading lists -/

/-- The next item of a row and what stands behind it. -/
def next? (bytes : Bytes) : Option (Bytes × Bytes) :=
  (extent? bytes).map fun e => (bytes.take e.total, bytes.drop e.total)

/-- The bytes behind a list's header, for a reader that knows how many fields it wants. The list
must be there in full and its first field must lie inside it; the reader may go on past its end. -/
def body? (list : Bytes) : Option Bytes :=
  if isList list then
    match extent? list with
    | some e =>
      let behind := list.drop e.headerLength
      -- Only the first field is looked for inside the list.
      if (next? (behind.take e.contentLength)).isSome then some behind else none
    | none => none
  else none

/-- The items of a row, as far as they can be told apart. -/
def items : (fuel : Nat) → Bytes → List Bytes
  | 0, _ => []
  | fuel + 1, bytes =>
    match next? bytes with
    | some (item, rest) => item :: items fuel rest
    | none => []

/-- The items inside a list, as far as they can be told apart; something else than a list has
none. -/
def listItems (list : Bytes) : List Bytes :=
  if isList list then
    match content? list with
    | some content => items content.length content
    | none => []
  else []

end Rlp

end VaultWatch
