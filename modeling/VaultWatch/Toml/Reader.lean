import VaultWatch.Text.Hex
import VaultWatch.Toml.Value

/-!
# Reading TOML documents

A document of version 1.0: lines with a key and a value, headers, comments and blanks. `parse?`
gives the entries of the root table, or nothing when the text is no document.
-/

namespace VaultWatch.Toml

/-- A step of reading: what was found, and the text behind it. -/
abbrev Found (α : Type) := Option (α × List Char)

/-! ### Characters -/

/-- A space or a tab. -/
def isBlank (c : Char) : Bool := c == ' ' || c == '\t'

/-- A character that may stand in comments and literal strings: no control character but the tab. -/
def isPlain (c : Char) : Bool :=
  c == '\t' || (' ' ≤ c && c ≤ '~') || '\x7f' < c

/-- A character of an unquoted key. -/
def isBare (c : Char) : Bool :=
  ('a' ≤ c && c ≤ 'z') || ('A' ≤ c && c ≤ 'Z') || ('0' ≤ c && c ≤ '9') || c == '_' || c == '-'

/-- A decimal digit. -/
def isDigit (c : Char) : Bool := '0' ≤ c && c ≤ '9'

/-- The text behind its leading blanks. -/
def skipBlanks (text : List Char) : List Char := text.dropWhile isBlank

/-- The text behind a line break, if one stands in front. -/
def lineBreak? : List Char → Option (List Char)
  | '\n' :: rest => some rest
  | '\r' :: '\n' :: rest => some rest
  | _ => none

/-- The text behind a comment, if one stands in front. -/
def skipComment : List Char → List Char
  | '#' :: rest => rest.dropWhile isPlain
  | text => text

/-- The text behind the end of a line: blanks, a comment, and a line break or the end. -/
def endOfLine? (text : List Char) : Option (List Char) :=
  match skipComment (skipBlanks text) with
  | [] => some []
  | rest => lineBreak? rest

/-- The text behind blanks, comments and line breaks, as they may stand inside an array. -/
def skipLines : (fuel : Nat) → List Char → List Char
  | 0, text => text
  | fuel + 1, text =>
    let rest := skipComment (skipBlanks text)
    match lineBreak? rest with
    | some rest => skipLines fuel rest
    | none => rest

/-! ### Strings -/

/-- The character of a code point written in hexadecimal digits; surrogates are none. -/
def codePoint? (digits : List Char) : Option Char :=
  match digits.mapM Hex.digit? with
  | some values =>
    let k := values.foldl (fun acc d => 16 * acc + d) 0
    if k < 0xD800 ∨ (0xDFFF < k ∧ k < 0x110000) then some (Char.ofNat k) else none
  | none => none

/-- The character of an escape, from behind its backslash. -/
def escape? : List Char → Found Char
  | 'b' :: rest => some ('\x08', rest)
  | 't' :: rest => some ('\t', rest)
  | 'n' :: rest => some ('\n', rest)
  | 'f' :: rest => some ('\x0c', rest)
  | 'r' :: rest => some ('\r', rest)
  | '"' :: rest => some ('"', rest)
  | '\\' :: rest => some ('\\', rest)
  | 'u' :: rest =>
    if rest.length < 4 then none else (codePoint? (rest.take 4)).map fun c => (c, rest.drop 4)
  | 'U' :: rest =>
    if rest.length < 8 then none else (codePoint? (rest.take 8)).map fun c => (c, rest.drop 8)
  | _ => none

/-- A string between double quotes, from behind the first. -/
def basicString : (fuel : Nat) → List Char → Found (List Char)
  | 0, _ => none
  | fuel + 1, text =>
    match text with
    | '"' :: rest => some ([], rest)
    | '\\' :: rest =>
      match escape? rest with
      | some (c, rest) => (basicString fuel rest).map fun f => (c :: f.1, f.2)
      | none => none
    | c :: rest =>
      if isPlain c then (basicString fuel rest).map fun f => (c :: f.1, f.2) else none
    | [] => none

/-- A string between single quotes, from behind the first. -/
def literalString (text : List Char) : Found (List Char) :=
  let content := text.takeWhile fun c => isPlain c && c != '\''
  match text.dropWhile fun c => isPlain c && c != '\'' with
  | '\'' :: rest => some (content, rest)
  | _ => none

/-- The end of a string of several lines: three quotes behind at most two that belong to it. -/
def closing? (quote : Char) (text : List Char) : Found (List Char) :=
  let run := (text.takeWhile (· == quote)).length
  if run < 3 then none
  else
    -- The last three quotes of a row close, as long as at most two stand in front of them.
    let inside := min (run - 3) 2
    some (List.replicate inside quote, text.drop (inside + 3))

/-- The text behind blanks and line breaks. -/
def skipEmptyLines : List Char → List Char
  | '\r' :: '\n' :: rest => skipEmptyLines rest
  | c :: rest => if isBlank c || c == '\n' then skipEmptyLines rest else c :: rest
  | [] => []

/-- The text behind a backslash at the end of a line: the line break and all blanks and line breaks
that follow. -/
def continuation? (text : List Char) : Option (List Char) :=
  (lineBreak? (skipBlanks text)).map skipEmptyLines

/-- A string between triple double quotes, from behind them. -/
def basicLines : (fuel : Nat) → List Char → Found (List Char)
  | 0, _ => none
  | fuel + 1, text =>
    match closing? '"' text with
    | some found => some found
    | none =>
      match text with
      | '\\' :: rest =>
        match continuation? rest with
        | some rest => basicLines fuel rest
        | none =>
          match escape? rest with
          | some (c, rest) => (basicLines fuel rest).map fun f => (c :: f.1, f.2)
          | none => none
      | c :: rest =>
        match lineBreak? (c :: rest) with
        | some rest => (basicLines fuel rest).map fun f => ('\n' :: f.1, f.2)
        | none =>
          if isPlain c then (basicLines fuel rest).map fun f => (c :: f.1, f.2) else none
      | [] => none

/-- A string between triple single quotes, from behind them. -/
def literalLines : (fuel : Nat) → List Char → Found (List Char)
  | 0, _ => none
  | fuel + 1, text =>
    match closing? '\'' text with
    | some found => some found
    | none =>
      match text with
      | c :: rest =>
        match lineBreak? (c :: rest) with
        | some rest => (literalLines fuel rest).map fun f => ('\n' :: f.1, f.2)
        | none =>
          if isPlain c then (literalLines fuel rest).map fun f => (c :: f.1, f.2) else none
      | [] => none

/-- A line break right behind opening quotes is no part of the string. -/
def skipFirstBreak (text : List Char) : List Char :=
  (lineBreak? text).getD text

/-- A string of any of the four kinds. -/
def string? (text : List Char) : Found (List Char) :=
  match text with
  | '"' :: '"' :: '"' :: rest => basicLines (rest.length + 1) (skipFirstBreak rest)
  | '\'' :: '\'' :: '\'' :: rest => literalLines (rest.length + 1) (skipFirstBreak rest)
  | '"' :: rest => basicString (rest.length + 1) rest
  | '\'' :: rest => literalString rest
  | _ => none

/-! ### Keys -/

/-- One part of a key: bare, or a string of one line. -/
def keyPart? (text : List Char) : Found String :=
  match text with
  | '"' :: rest => (basicString (rest.length + 1) rest).map fun f => (String.ofList f.1, f.2)
  | '\'' :: rest => (literalString rest).map fun f => (String.ofList f.1, f.2)
  | text =>
    match text.takeWhile isBare with
    | [] => none
    | bare => some (String.ofList bare, text.dropWhile isBare)

/-- How many tables one may go down, with the value at the end. -/
def maxDepth : Nat := 79

/-- The parts of a key: dots between them, blanks around each. -/
def keyParts : (limit : Nat) → List Char → Found (List String)
  | 0, _ => none
  | limit + 1, text =>
    match keyPart? (skipBlanks text) with
    | none => none
    | some (part, rest) =>
      match skipBlanks rest with
      | '.' :: rest => (keyParts limit rest).map fun f => (part :: f.1, f.2)
      | rest => some ([part], rest)

/-- A key of at most so many parts as one may go down. -/
def key? (text : List Char) : Found (List String) := keyParts maxDepth text

/-! ### Numbers and times -/

/-- Digits of a kind with single underscores between them. -/
def digitRow? (isKind : Char → Bool) : (started : Bool) → List Char → Found (List Char)
  | started, '_' :: c :: rest =>
    if started && isKind c then (digitRow? isKind true rest).map fun f => (c :: f.1, f.2)
    else if started then some ([], '_' :: c :: rest) else none
  | started, c :: rest =>
    if isKind c then (digitRow? isKind true rest).map fun f => (c :: f.1, f.2)
    else if started then some ([], c :: rest) else none
  | started, [] => if started then some ([], []) else none

/-- The sign of a number. -/
def sign : List Char → Bool × List Char
  | '+' :: rest => (false, rest)
  | '-' :: rest => (true, rest)
  | text => (false, text)

/-- A decimal whole number: no leading zero. -/
def decimal? (text : List Char) : Found (List Char) :=
  match text with
  | '0' :: rest => some (['0'], rest)
  | text => digitRow? isDigit false text

/-- The value of digits in a base. -/
def valueOf (base : Nat) (digits : List Char) : Nat :=
  digits.foldl (fun acc c => base * acc + (Hex.digit? c).getD 0) 0

/-- An integer, which must fit 64 bits with sign. -/
def integer? (text : List Char) : Found Toml :=
  let fit (negative : Bool) (value : Nat) (rest : List Char) : Found Toml :=
    let value : Int := if negative then -value else value
    if -0x8000000000000000 ≤ value ∧ value < 0x8000000000000000 then some (.integer value, rest)
    else none
  match text with
  | '0' :: 'x' :: rest =>
    (digitRow? (fun c => (Hex.digit? c).isSome) false rest).bind fun f =>
      fit false (valueOf 16 f.1) f.2
  | '0' :: 'o' :: rest =>
    (digitRow? (fun c => '0' ≤ c && c ≤ '7') false rest).bind fun f =>
      fit false (valueOf 8 f.1) f.2
  | '0' :: 'b' :: rest =>
    (digitRow? (fun c => c == '0' || c == '1') false rest).bind fun f =>
      fit false (valueOf 2 f.1) f.2
  | text =>
    let (negative, rest) := sign text
    (decimal? rest).bind fun f => fit negative (valueOf 10 f.1) f.2

/-- The exponent of a float, from behind its letter. -/
def exponent? (text : List Char) : Found Int :=
  let (negative, digits) := sign text
  (digitRow? isDigit false digits).map fun f =>
    let size := valueOf 10 f.1
    (if negative then -size else size, f.2)

/-- The exponent of a float, if a letter announces one, and the text behind it. -/
def exponentPart? : List Char → Found Int
  | 'e' :: rest => exponent? rest
  | 'E' :: rest => exponent? rest
  | rest => some (0, rest)

/-- The least number that is too large for a double: halfway between the largest double and the
power of two behind it. -/
def doubleBound : Nat := (1 <<< 1024) - (1 <<< 970)

/-- Whether `digits * 10 ^ exponent` is too large for a double. Numbers with more than 310 digits
are, and numbers with fewer than 300 are not, so that only in between a power of ten has to be
worked out. -/
def isTooLarge (digits : Nat) (exponent : Int) : Bool :=
  let places := (Nat.toDigits 10 digits).length + exponent
  if digits = 0 ∨ places < 300 then false
  else if 310 < places then true
  else decide (doubleBound * Nat.pow 10 (-exponent).toNat ≤ digits * Nat.pow 10 exponent.toNat)

/-- A float behind its sign: a whole number with a fraction, an exponent or both. It may be too
small for a double, or too large below zero, but not too large above. -/
def plainFloat? (negative : Bool) (text : List Char) : Option (Toml × List Char) := do
  let (whole, rest) ← decimal? text
  let (fraction, behind) ←
    match rest with
    | '.' :: rest => digitRow? isDigit false rest
    | rest => some ([], rest)
  let (exponent, behind) ← exponentPart? behind
  -- With neither a fraction nor an exponent it is a whole number.
  if behind.length = rest.length then none
  else if !negative && isTooLarge (valueOf 10 (whole ++ fraction)) (exponent - fraction.length) then
    none
  else some (.float, behind)

/-- A float, or one of the names `inf` and `nan`. -/
def float? (text : List Char) : Found Toml :=
  let (negative, rest) := sign text
  match rest with
  | 'i' :: 'n' :: 'f' :: rest => some (.float, rest)
  | 'n' :: 'a' :: 'n' :: rest => some (.float, rest)
  | rest => plainFloat? negative rest

/-- A number of exactly so many digits. -/
def digits? (count : Nat) (text : List Char) : Found Nat :=
  let front := text.take count
  if front.length = count ∧ front.all isDigit then some (valueOf 10 front, text.drop count)
  else none

/-- The days of a month. -/
def daysOf (year month : Nat) : Nat :=
  if month = 2 then
    if year % 4 = 0 ∧ (year % 100 ≠ 0 ∨ year % 400 = 0) then 29 else 28
  else if month = 4 ∨ month = 6 ∨ month = 9 ∨ month = 11 then 30
  else 31

/-- A day, as year, month and day. -/
def day? (text : List Char) : Option (List Char) := do
  let (year, rest) ← digits? 4 text
  let '-' :: rest := rest | none
  let (month, rest) ← digits? 2 rest
  let '-' :: rest := rest | none
  let (day, rest) ← digits? 2 rest
  if 1 ≤ month ∧ month ≤ 12 ∧ 1 ≤ day ∧ day ≤ daysOf year month then some rest else none

/-- A time of day, with an optional fraction of a second. -/
def clock? (text : List Char) : Option (List Char) := do
  let (hour, rest) ← digits? 2 text
  let ':' :: rest := rest | none
  let (minute, rest) ← digits? 2 rest
  let ':' :: rest := rest | none
  let (second, rest) ← digits? 2 rest
  if hour ≤ 23 ∧ minute ≤ 59 ∧ second ≤ 60 then
    match rest with
    | '.' :: fraction =>
      if (fraction.takeWhile isDigit).isEmpty then none else some (fraction.dropWhile isDigit)
    | rest => some rest
  else none

/-- The distance of a time from world time. -/
def offset? (text : List Char) : Option (List Char) :=
  let ahead (rest : List Char) : Option (List Char) := do
    let (hour, rest) ← digits? 2 rest
    let ':' :: rest := rest | none
    let (minute, rest) ← digits? 2 rest
    if hour ≤ 23 ∧ minute ≤ 59 then some rest else none
  match text with
  | 'Z' :: rest => some rest
  | 'z' :: rest => some rest
  | '+' :: rest => ahead rest
  | '-' :: rest => ahead rest
  | rest => some rest

/-- A point in time: a day, a time of day, or both with an optional distance from world time. -/
def time? (text : List Char) : Found Toml :=
  match day? text with
  | some rest =>
    let behindDay : Option (List Char) := match rest with
      | 'T' :: rest => clock? rest
      | 't' :: rest => clock? rest
      | ' ' :: rest => clock? rest
      | _ => none
    -- A letter behind the day promises a time of day; a blank may just as well end the value.
    match behindDay with
    | some rest => (offset? rest).map fun rest => (.time, rest)
    | none =>
      match rest with
      | 'T' :: _ => none
      | 't' :: _ => none
      | rest => some (.time, rest)
  | none => (clock? text).map fun rest => (.time, rest)

/-- A number or a point in time. -/
def numeral? (text : List Char) : Found Toml :=
  match time? text with
  | some found => some found
  | none =>
    match float? text with
    | some found => some found
    | none => integer? text

/-! ### Values -/

/-- The last part of a key and the parts in front of it. -/
def splitKey (parts : List String) : Option (List String × String) :=
  parts.getLast?.map fun last => (parts.dropLast, last)

/-- The entries of an inline table, added one after another. -/
def inlineEntries (pairs : List (List String × Toml)) : Option Entries :=
  pairs.foldlM (fun entries pair => do
    let (path, key) ← splitKey pair.1
    addDotted path key pair.2 entries) []

mutual

/-- A value. `depth` bounds how deep arrays and inline tables may still nest. -/
def value? : (fuel depth : Nat) → List Char → Found Toml
  | 0, _, _ => none
  | fuel + 1, depth, text =>
    match text with
    | '"' :: _ => (string? text).map fun f => (.string (String.ofList f.1), f.2)
    | '\'' :: _ => (string? text).map fun f => (.string (String.ofList f.1), f.2)
    | '[' :: rest =>
      if depth = 0 then none
      else (items? fuel (depth - 1) rest).map fun f => (.array f.1, f.2)
    | '\x7b' :: rest =>
      if depth = 0 then none
      else
        match skipBlanks rest with
        | '\x7d' :: rest => some (.table .inline [], rest)
        | rest =>
          (pairs? fuel (depth - 1) rest).bind fun f =>
            (inlineEntries f.1).map fun entries => (.table .inline entries, f.2)
    | 't' :: 'r' :: 'u' :: 'e' :: rest => some (.bool true, rest)
    | 'f' :: 'a' :: 'l' :: 's' :: 'e' :: rest => some (.bool false, rest)
    | 'i' :: _ => float? text
    | 'n' :: _ => float? text
    | text => numeral? text

/-- The items of an array from behind its bracket or a comma, and the text behind its end. -/
def items? : (fuel depth : Nat) → List Char → Found (List Toml)
  | 0, _, _ => none
  | fuel + 1, depth, text =>
    match skipLines (text.length + 1) text with
    | ']' :: rest => some ([], rest)
    | text =>
      match value? fuel depth text with
      | none => none
      | some (item, rest) =>
        match skipLines (rest.length + 1) rest with
        | ',' :: rest => (items? fuel depth rest).map fun f => (item :: f.1, f.2)
        | ']' :: rest => some ([item], rest)
        | _ => none

/-- The pairs of an inline table that has some, and the text behind its end. -/
def pairs? : (fuel depth : Nat) → List Char → Found (List (List String × Toml))
  | 0, _, _ => none
  | fuel + 1, depth, text =>
    match key? text with
    | some (path, '=' :: rest) =>
      match value? fuel depth (skipBlanks rest) with
      | none => none
      | some (value, rest) =>
        match skipBlanks rest with
        | ',' :: rest => (pairs? fuel depth rest).map fun f => ((path, value) :: f.1, f.2)
        | '\x7d' :: rest => some ([(path, value)], rest)
        | _ => none
    | _ => none

end

/-! ### Documents -/

/-- The lines of a document, with the path of the last header and the entries so far. -/
def lines? : (fuel : Nat) → (header : List String) → Entries → List Char → Option Entries
  | 0, _, _, _ => none
  | fuel + 1, header, entries, text =>
    match skipComment (skipBlanks text) with
    | [] => some entries
    | '[' :: '[' :: rest =>
      match key? rest with
      | some (path, ']' :: ']' :: rest) => do
        let (above, key) ← splitKey path
        let entries ← openItem above key entries
        let rest ← endOfLine? rest
        lines? fuel path entries rest
      | _ => none
    | '[' :: rest =>
      match key? rest with
      | some (path, ']' :: rest) => do
        let (above, key) ← splitKey path
        let entries ← openTable above key entries
        let rest ← endOfLine? rest
        lines? fuel path entries rest
      | _ => none
    | rest =>
      match lineBreak? rest with
      | some rest => lines? fuel header entries rest
      | none =>
        match key? rest with
        | some (path, '=' :: rest) => do
          let (value, rest) ← value? (rest.length + 1) maxDepth (skipBlanks rest)
          let (above, key) ← splitKey path
          let entries ← addBelow header above key value entries
          let rest ← endOfLine? rest
          lines? fuel header entries rest
        | _ => none

/-- The root table of a document. A byte order mark may stand in front. -/
def parse? (text : String) : Option Entries :=
  let chars := match text.toList with
    | '\uFEFF' :: rest => rest
    | chars => chars
  lines? (chars.length + 1) [] [] chars

end VaultWatch.Toml
