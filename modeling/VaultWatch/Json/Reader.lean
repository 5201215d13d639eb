import VaultWatch.Json.Value
import VaultWatch.Text.Hex

/-!
# Reading JSON text

A strict reader: no comma at an end, no control character inside a string, no number with a leading
zero, nothing but blanks around the value.
-/

namespace VaultWatch.Json

/-! ### Blanks and digits -/

/-- The four blanks of JSON. -/
def isBlank (c : Char) : Bool :=
  c == ' ' || c == '\n' || c == '\t' || c == '\r'

/-- The text behind its leading blanks. -/
def skipBlanks (text : List Char) : List Char :=
  text.dropWhile isBlank

/-- An ASCII digit. -/
def isDigit (c : Char) : Bool :=
  '0' ≤ c && c ≤ '9'

/-- The number that a row of digits stands for. -/
def ofDigits (digits : List Char) : Nat :=
  digits.foldl (fun acc c => 10 * acc + (c.toNat - '0'.toNat)) 0

/-! ### Strings -/

/-- The code unit of four hexadecimal digits. -/
def codeUnit? (a b c d : Char) : Option Nat :=
  match Hex.digit? a, Hex.digit? b, Hex.digit? c, Hex.digit? d with
  | some a, some b, some c, some d => some (((a * 16 + b) * 16 + c) * 16 + d)
  | _, _, _, _ => none

/-- The first half of a surrogate pair. -/
def isLead (unit : Nat) : Bool := 0xD800 ≤ unit && unit ≤ 0xDBFF

/-- The second half of a surrogate pair. -/
def isTrail (unit : Nat) : Bool := 0xDC00 ≤ unit && unit ≤ 0xDFFF

/-- The character of a surrogate pair. -/
def pairChar (lead trail : Nat) : Char :=
  Char.ofNat (0x10000 + (lead - 0xD800) * 0x400 + (trail - 0xDC00))

/-- The character of an escape of one letter. -/
def shortEscape? : Char → Option Char
  | '"' => some '"'
  | '\\' => some '\\'
  | '/' => some '/'
  | 'b' => some '\x08'
  | 'f' => some '\x0c'
  | 'n' => some '\n'
  | 'r' => some '\r'
  | 't' => some '\t'
  | _ => none

/-- Puts a character in front of what was read behind it. -/
def consChar (c : Option Char) (found : Option (List (Option Char) × List Char)) :
    Option (List (Option Char) × List Char) :=
  found.map fun f => (c :: f.1, f.2)

/-- The characters of a string from behind its opening quote, and the text behind its closing one.
Half a surrogate pair is no character. -/
def readChars : List Char → Option (List (Option Char) × List Char)
  | [] => none
  | '"' :: rest => some ([], rest)
  | '\\' :: 'u' :: a :: b :: c :: d :: rest =>
    match codeUnit? a b c d with
    | none => none
    | some unit =>
      if isLead unit then
        match rest with
        | '\\' :: 'u' :: e :: f :: g :: h :: behind =>
          match codeUnit? e f g h with
          | none => none
          | some second =>
            if isTrail second then consChar (some (pairChar unit second)) (readChars behind)
            -- The second escape does not belong to the first and is read by itself.
            else consChar none (readChars ('\\' :: 'u' :: e :: f :: g :: h :: behind))
        | rest => consChar none (readChars rest)
      else if isTrail unit then consChar none (readChars rest)
      else consChar (some (Char.ofNat unit)) (readChars rest)
  | '\\' :: letter :: rest =>
    match shortEscape? letter with
    | some c => consChar (some c) (readChars rest)
    | none => none
  | c :: rest => if c < ' ' ∨ c = '\\' then none else consChar (some c) (readChars rest)
termination_by text => text.length

/-- The text of characters that are all there. -/
def allChars? (chars : List (Option Char)) : Option String :=
  if chars.all Option.isSome then some (String.ofList (chars.filterMap id)) else none

/-! ### Numbers -/

/-- Splits off the leading digits, of which there must be one. -/
def readDigits? (text : List Char) : Option (List Char × List Char) :=
  match text.takeWhile isDigit with
  | [] => none
  | digits => some (digits, text.dropWhile isDigit)

/-- The fraction of a number, if there is one. -/
def readFraction : List Char → Option (List Char × List Char)
  | '.' :: rest => (readDigits? rest).map fun d => ('.' :: d.1, d.2)
  | text => some ([], text)

/-- The exponent of a number, if there is one. -/
def readExponent : List Char → Option (List Char × List Char)
  | mark :: rest =>
    if mark = 'e' ∨ mark = 'E' then
      match rest with
      | '+' :: rest => (readDigits? rest).map fun d => (mark :: '+' :: d.1, d.2)
      | '-' :: rest => (readDigits? rest).map fun d => (mark :: '-' :: d.1, d.2)
      | rest => (readDigits? rest).map fun d => (mark :: d.1, d.2)
    else some ([], mark :: rest)
  | [] => some ([], [])

/-- A number without its sign. -/
def readUnsigned (negative : Bool) (text : List Char) : Option (Json × List Char) :=
  match readDigits? text with
  | none => none
  | some (digits, rest) =>
    -- A leading zero stands alone.
    if digits.head? = some '0' ∧ digits.length ≠ 1 then none
    else
      match readFraction rest with
      | none => none
      | some (fraction, rest) =>
        match readExponent rest with
        | none => none
        | some (exponent, rest) =>
          some (.number ⟨negative, ofDigits digits, fraction ++ exponent⟩, rest)

/-! ### Values -/

mutual

/-- A value and the text behind it. The fuel bounds the depth and the number of items. -/
def readValue : (fuel : Nat) → List Char → Option (Json × List Char)
  | 0, _ => none
  | fuel + 1, text =>
    match skipBlanks text with
    | 'n' :: 'u' :: 'l' :: 'l' :: rest => some (.null, rest)
    | 't' :: 'r' :: 'u' :: 'e' :: rest => some (.bool true, rest)
    | 'f' :: 'a' :: 'l' :: 's' :: 'e' :: rest => some (.bool false, rest)
    | '"' :: rest => (readChars rest).map fun found =>
        (match allChars? found.1 with
          | some value => .string value
          | none => .brokenString, found.2)
    | '[' :: rest =>
      match skipBlanks rest with
      | ']' :: behind => some (.array [], behind)
      | rest => (readItems fuel rest).map fun found => (.array found.1, found.2)
    | '\x7b' :: rest =>
      match skipBlanks rest with
      | '\x7d' :: behind => some (.object [], behind)
      | rest => (readMembers fuel rest).map fun found => (.object found.1, found.2)
    | '-' :: rest => readUnsigned true rest
    | rest => readUnsigned false rest

/-- The items of an array that has some, and the text behind its bracket. -/
def readItems : (fuel : Nat) → List Char → Option (List Json × List Char)
  | 0, _ => none
  | fuel + 1, text =>
    match readValue fuel text with
    | none => none
    | some (item, rest) =>
      match skipBlanks rest with
      | ',' :: rest => (readItems fuel rest).map fun found => (item :: found.1, found.2)
      | ']' :: rest => some ([item], rest)
      | _ => none

/-- The members of an object that has some, and the text behind its brace. -/
def readMembers : (fuel : Nat) → List Char → Option (List (Option String × Json) × List Char)
  | 0, _ => none
  | fuel + 1, text =>
    match skipBlanks text with
    | '"' :: rest =>
      match readChars rest with
      | none => none
      | some (key, rest) =>
        match skipBlanks rest with
        | ':' :: rest =>
          match readValue fuel rest with
          | none => none
          | some (value, rest) =>
            match skipBlanks rest with
            | ',' :: rest =>
              (readMembers fuel rest).map fun found => ((allChars? key, value) :: found.1, found.2)
            | '\x7d' :: rest => some ([(allChars? key, value)], rest)
            | _ => none
        | _ => none
    | _ => none

end

/-- The value that a whole text stands for. -/
def parse? (text : String) : Option Json :=
  let chars := text.toList
  match readValue (chars.length + 1) chars with
  | some (value, rest) => if (skipBlanks rest).isEmpty then some value else none
  | none => none

end VaultWatch.Json
