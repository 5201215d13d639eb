/-!
# JSON values

Values as a strict reader delivers them. Nothing that a typed record could care about is lost:
members keep their order and may repeat, numbers keep the form they were written in, and a string
that has no Unicode text, because half of a surrogate pair is missing, is told apart from one that
does.
-/

namespace VaultWatch

/-- A number as it is written: its sign, its whole part, and the characters of its fraction and
exponent. -/
structure JsonNumber where
  negative : Bool
  whole : Nat
  tail : List Char
  deriving DecidableEq, Repr

/-- A JSON value. A key or string without Unicode text is `none` or `brokenString`. -/
inductive Json where
  | null
  | bool (value : Bool)
  | number (value : JsonNumber)
  | string (value : String)
  | brokenString
  | array (items : List Json)
  | object (members : List (Option String × Json))

namespace Json

/-! ### Building values -/

/-- A natural number. -/
def ofNat (k : Nat) : Json := .number ⟨false, k, []⟩

/-- A string, or null. -/
def ofText? (text : Option String) : Json :=
  match text with
  | some value => .string value
  | none => .null

/-- An object with the given members. -/
def record (members : List (String × Json)) : Json :=
  .object (members.map fun m => (some m.1, m.2))

/-! ### Taking values apart -/

/-- The number below `2 ^ 64` that is written as plain digits. -/
def u64? : Json → Option UInt64
  | .number value =>
    if value.negative = false ∧ value.tail = [] ∧ value.whole < UInt64.size then
      some (UInt64.ofNat value.whole)
    else none
  | _ => none

/-- The text of a string. -/
def text? : Json → Option String
  | .string value => some value
  | _ => none

/-- A truth value. -/
def bool? : Json → Option Bool
  | .bool value => some value
  | _ => none

/-- The items of an array. -/
def items? : Json → Option (List Json)
  | .array items => some items
  | _ => none

/-- A value that may be absent or null. -/
def optional {α : Type} (read : Json → Option α) : Option Json → Option (Option α)
  | none => some none
  | some .null => some none
  | some value => (read value).map some

/-- A value that must be there. -/
def required {α : Type} (read : Json → Option α) (value : Option Json) : Option α :=
  value.bind read

/-- The members of an object under a name. -/
def membersNamed (name : String) (members : List (Option String × Json)) : List Json :=
  members.filterMap fun m => if m.1 = some name then some m.2 else none

/-- The fields of a record with the given names. As an object it may have other members too, but no
name twice, and every key must be text; as an array it has the fields alone, in order. -/
def fields? (names : List String) : Json → Option (String → Option Json)
  | .object members =>
    if members.all (·.1.isSome) && names.all fun name => (membersNamed name members).length ≤ 1 then
      some fun name => (membersNamed name members).head?
    else none
  | .array items =>
    if items.length = names.length then some fun name => (names.zip items).lookup name else none
  | _ => none

/-- The name of a variant without content: a string, or an object with that one key and null. -/
def variantName? : Json → Option String
  | .string name => some name
  | .object [(some name, .null)] => some name
  | _ => none

end Json

end VaultWatch
