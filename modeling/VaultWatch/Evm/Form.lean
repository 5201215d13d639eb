import VaultWatch.Json.Value
import VaultWatch.Text.Hex

/-!
# Forms of JSON values

What a part of a node's reply must look like: numbers and byte strings are hexadecimal text, and
objects have named members, some of which may be missing. Members that a form does not name are
passed over; one that it names may not come twice. `accepts` tells whether a value has a form, and
the readers take the parts of a value that does.
-/

namespace VaultWatch.Evm

/-- Whether a member of an object may be missing. -/
inductive Presence where
  | required
  /-- It may be missing or null. -/
  | optional
  /-- It may be missing, but not null. -/
  | defaulted
  deriving DecidableEq, Repr

/-- The form of a JSON value. -/
inductive Form where
  /-- A number of at most so many bytes. -/
  | quantity (bytes : Nat)
  /-- A byte string of exactly that length. -/
  | fixed (bytes : Nat)
  /-- A byte string. -/
  | data
  | text
  | flag
  | listOf (item : Form)
  | record (members : List (String × Presence × Form))

/-! ### Readers -/

/-- Digits in pairs. One without a partner at the end is dropped. -/
def pairs : List Nat → List Nat
  | high :: low :: digits => (16 * high + low) :: pairs digits
  | _ => []

/-- The bytes that a text of digits stands for. Blanks among the digits count for the length alone:
where it is odd, the first digit is a byte by itself. -/
def looseBytes? (text : List Char) : Option (List Nat) := do
  let digits ← (text.filter (!Hex.isBlank ·)).mapM Hex.digit?
  return pairs (if text.length % 2 = 1 then 0 :: digits else digits)

/-- The number of at most so many bytes that a text of hexadecimal digits stands for. The text is
not empty; a mark in front is optional. -/
def quantityOf? (bytes : Nat) (text : String) : Option Nat :=
  let digits := Hex.stripMark text.toList
  if digits.isEmpty || 2 * bytes < digits.length then none
  else (looseBytes? digits).map fun found => found.foldl (fun acc b => 256 * acc + b) 0

/-- The bytes of a text of exactly so many digits, a mark in front aside. Bytes that blanks leave
open are zero. -/
def fixedOf? (bytes : Nat) (text : String) : Option Bytes :=
  let digits := Hex.stripMark text.toList
  if digits.length = 2 * bytes then
    (looseBytes? digits).map fun found =>
      (found ++ List.replicate (bytes - found.length) 0).map UInt8.ofNat
  else none

/-- The number of a quantity. -/
def quantity? (bytes : Nat) (value : Json) : Option Nat :=
  value.text?.bind (quantityOf? bytes)

/-- The bytes of a byte string. -/
def data? (value : Json) : Option Bytes :=
  value.text?.bind Hex.ofField?

/-- The bytes of a byte string of exactly that length. -/
def fixed? (bytes : Nat) (value : Json) : Option Bytes :=
  value.text?.bind (fixedOf? bytes)

/-- A member of an object, unless it is missing or null. -/
def member? (name : String) (value : Json) : Option Json :=
  match value with
  | .object members =>
    match (Json.membersNamed name members).head? with
    | some .null => none
    | found => found
  | _ => none

/-! ### Forms -/

namespace Form

mutual

/-- A value has a form. -/
def accepts : Form → Json → Bool
  | quantity bytes, value => (quantity? bytes value).isSome
  | fixed bytes, value => (fixed? bytes value).isSome
  | data, value => (data? value).isSome
  | text, value => value.text?.isSome
  | flag, value => value.bool?.isSome
  | listOf item, value =>
    match value with
    | .array items => items.all fun i => item.accepts i
    | _ => false
  | record members, value =>
    match value with
    | .object found => found.all (·.1.isSome) && acceptsMembers members found
    | _ => false

/-- The members of an object have the forms that are asked of them. -/
def acceptsMembers : List (String × Presence × Form) → List (Option String × Json) → Bool
  | [], _ => true
  | (name, presence, form) :: rest, found =>
    let fits := match Json.membersNamed name found with
      | [] => presence != .required
      | [.null] => presence == .optional
      | [value] => form.accepts value
      | _ => false
    fits && acceptsMembers rest found

end

end Form

end VaultWatch.Evm
