/-!
# Byte strings as hexadecimal text

A byte is written as two lower-case digits, high half first. The reader takes digits of either
case and asks for an even number of them. A **byte field** is the form used in records: the
writer puts `0x` in front, and the reader takes one such mark away if it is there, so that every
byte field is read back (`Hex.ofField?_field`).
-/

namespace VaultWatch

/-- A byte string. -/
abbrev Bytes := List UInt8

namespace Hex

/-! ### Digits -/

/-- The value of a hexadecimal digit of either case. -/
def digit? (c : Char) : Option Nat :=
  if '0' ≤ c ∧ c ≤ '9' then some (c.toNat - '0'.toNat)
  else if 'a' ≤ c ∧ c ≤ 'f' then some (c.toNat - 'a'.toNat + 10)
  else if 'A' ≤ c ∧ c ≤ 'F' then some (c.toNat - 'A'.toNat + 10)
  else none

/-- The two digits of a byte. -/
def byteDigits (b : UInt8) : List Char :=
  [Nat.digitChar (b.toNat / 16), Nat.digitChar (b.toNat % 16)]

/-! ### Plain digits -/

/-- The digits of a byte string, two to a byte. -/
def digits (bytes : Bytes) : List Char :=
  bytes.flatMap byteDigits

/-- Reads digits two at a time; an odd digit at the end, or any other character, is refused. -/
def ofDigits? : List Char → Option Bytes
  | [] => some []
  | [_] => none
  | hi :: lo :: rest =>
    match digit? hi, digit? lo, ofDigits? rest with
    | some h, some l, some bytes => some (UInt8.ofNat (16 * h + l) :: bytes)
    | _, _, _ => none

/-- The text of a byte string without a mark in front. -/
def encode (bytes : Bytes) : String :=
  String.ofList (digits bytes)

/-- The bytes of a text of digits without a mark in front. -/
def decode? (text : String) : Option Bytes :=
  ofDigits? text.toList

/-- A character that readers of loose digits pass over. -/
def isBlank (c : Char) : Bool :=
  c == ' ' || c == '\t' || c == '\n' || c == '\r'

/-! ### Byte fields -/

/-- One leading `0x` is taken away; only the lower-case mark counts. -/
def stripMark : List Char → List Char
  | '0' :: 'x' :: rest => rest
  | text => text

/-- A byte field: `0x` and the digits. -/
def field (bytes : Bytes) : String :=
  String.ofList ('0' :: 'x' :: digits bytes)

/-- Reads a byte field, with or without its mark. -/
def ofField? (text : String) : Option Bytes :=
  ofDigits? (stripMark text.toList)

/-- Every leading `0x` is taken away, however often it is repeated. -/
def stripMarks : List Char → List Char
  | '0' :: 'x' :: rest => stripMarks rest
  | text => text

/-! ### Reading what was written -/

/-- Each of the sixteen digits reads back as its own value. -/
theorem digit?_digitChar {d : Nat} (h : d < 16) : digit? (Nat.digitChar d) = some d := by
  have hall : ∀ d < 16, digit? (Nat.digitChar d) = some d := by decide
  exact hall d h

theorem ofDigits?_digits (bytes : Bytes) : ofDigits? (digits bytes) = some bytes := by
  induction bytes with
  | nil => rfl
  | cons b bytes ih =>
    have hhigh : b.toNat / 16 < 16 := by
      have hb := b.toNat_lt
      omega
    have hlow : b.toNat % 16 < 16 := Nat.mod_lt _ (by decide)
    have hbyte : UInt8.ofNat (16 * (b.toNat / 16) + b.toNat % 16) = b := by
      rw [Nat.div_add_mod, UInt8.ofNat_toNat]
    simp only [digits, List.flatMap_cons, byteDigits, List.cons_append, List.nil_append] at ih ⊢
    simp only [ofDigits?, digit?_digitChar hhigh, digit?_digitChar hlow, ih, hbyte]

/-- A byte field is read back, whatever the bytes. -/
theorem ofField?_field (bytes : Bytes) : ofField? (field bytes) = some bytes := by
  rw [ofField?, field, String.toList_ofList, stripMark, ofDigits?_digits]

end Hex

end VaultWatch
