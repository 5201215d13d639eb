import VaultWatch.Json.Value

/-!
# Compact JSON text

The writer puts no blanks anywhere, keeps members in order, and escapes in strings only what it
must: quotes, backslashes and control characters.
-/

namespace VaultWatch.Json

/-! ### Strings -/

/-- A character inside a string. -/
def escapeChar (c : Char) : List Char :=
  if c = '"' then ['\\', '"']
  else if c = '\\' then ['\\', '\\']
  else if c = '\n' then ['\\', 'n']
  else if c = '\r' then ['\\', 'r']
  else if c = '\t' then ['\\', 't']
  else if c = '\x08' then ['\\', 'b']
  else if c = '\x0c' then ['\\', 'f']
  else if c < ' ' then
    ['\\', 'u', '0', '0', Nat.digitChar (c.toNat / 16), Nat.digitChar (c.toNat % 16)]
  else [c]

/-- A string with its quotes. -/
def writeText (text : String) : List Char :=
  '"' :: text.toList.flatMap escapeChar ++ ['"']

/-! ### Values -/

/-- A number as it was written. -/
def writeNumber (n : JsonNumber) : List Char :=
  (if n.negative then ['-'] else []) ++ Nat.toDigits 10 n.whole ++ n.tail

/-- A key; one without Unicode text is written as the replacement character. -/
def writeKey (key : Option String) : List Char :=
  writeText (key.getD "\uFFFD")

mutual

/-- The text of a value. -/
def write : Json → List Char
  | .null => "null".toList
  | .bool true => "true".toList
  | .bool false => "false".toList
  | .number n => writeNumber n
  | .string s => writeText s
  | .brokenString => writeText "\uFFFD"
  | .array items => '[' :: writeItems items ++ [']']
  | .object members => '\x7b' :: writeMembers members ++ ['\x7d']

/-- Items with commas between them. -/
def writeItems : List Json → List Char
  | [] => []
  | [item] => write item
  | item :: rest => write item ++ ',' :: writeItems rest

/-- Members with commas between them. -/
def writeMembers : List (Option String × Json) → List Char
  | [] => []
  | [(key, value)] => writeKey key ++ ':' :: write value
  | (key, value) :: rest => writeKey key ++ ':' :: write value ++ ',' :: writeMembers rest

end

/-- The compact text of a value. -/
def render (value : Json) : String :=
  String.ofList (write value)

end VaultWatch.Json
