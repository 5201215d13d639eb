/-!
# Labels of other scripts in ASCII

A label with characters beyond ASCII can be spelled in ASCII: first come its ASCII characters, then,
behind the last hyphen, the others in rising order as numbers that tell how far each is from the one
before it and where it stands. The numbers are written in digits whose weights adapt to them.
-/

namespace VaultWatch.Punycode

/-- The value of a digit: letters stand for 0 to 25, figures for 26 to 35. -/
def digit? (c : Char) : Option Nat :=
  let c := c.toLower
  if 'a' ≤ c ∧ c ≤ 'z' then some (c.toNat - 'a'.toNat)
  else if c.isDigit then some (c.toNat - '0'.toNat + 26)
  else none

/-- A number of 32 bits. -/
def word? (k : Nat) : Option Nat :=
  if k < UInt32.size then some k else none

/-- Divides a step until it is small, and tells by how many digits it got shorter. -/
def shrink (step digits : Nat) : Nat × Nat :=
  if h : 455 < step then
    have : step / 35 < step := Nat.div_lt_self (by omega) (by decide)
    shrink (step / 35) (digits + 1)
  else (step, digits)
termination_by step

/-- The bias behind a step to a text of so many characters. The first step is usually a long one. -/
def nextBias (first : Bool) (step size : Nat) : Nat :=
  let half := if first then step / 700 else step / 2
  let (rest, digits) := shrink (half + half / size) 0
  36 * digits + 36 * rest / (rest + 38)

/-- The least digit that is not the last one of its number, at the given place. -/
def threshold (bias place : Nat) : Nat :=
  if place ≤ bias then 1 else min 26 (place - bias)

/-- What is known between two digits. -/
structure Progress where
  /-- The characters found so far. -/
  text : List Char
  /-- The code point reached. -/
  point : Nat
  bias : Nat
  /-- Where the number that is being read started to count. -/
  start : Nat
  /-- The count so far. -/
  count : Nat
  weight : Nat
  /-- The place of the next digit, in steps of 36; at 36 a number starts. -/
  place : Nat

/-- The character at a code point. -/
def char? (point : Nat) : Option Char :=
  if point.isValidChar then some (Char.ofNat point) else none

/-- Puts in the character that a finished number tells. -/
def Progress.insert? (p : Progress) : Option Progress := do
  let size := p.text.length + 1
  let point ← word? (p.point + p.count / size)
  let c ← char? point
  let i := p.count % size
  let bias := nextBias (p.start == 0) (p.count - p.start) size
  return { p with
    text := p.text.insertIdx i c, point, bias, start := i + 1, count := i + 1,
    weight := 1, place := 36 }

/-- Reads a digit. -/
def Progress.read? (p : Progress) (c : Char) : Option Progress := do
  let digit ← digit? c
  let amount ← word? (digit * p.weight)
  let count ← word? (p.count + amount)
  let least := threshold p.bias p.place
  if digit < least then insert? { p with count }
  else
    let weight ← word? (p.weight * (36 - least))
    return { p with count, weight, place := p.place + 36 }

/-- Splits a spelling at its last hyphen. One at the very start does not count. -/
def splitBasic (spelling : List Char) : List Char × List Char :=
  let digits := (spelling.reverse.takeWhile (· != '-')).reverse
  let basic := spelling.take (spelling.length - digits.length - 1)
  if basic.isEmpty then ([], spelling) else (basic, digits)

/-- The label that a spelling stands for. -/
def decode? (spelling : List Char) : Option (List Char) := do
  let (basic, digits) := splitBasic spelling
  let last ← digits.foldlM Progress.read? ⟨basic, 0x80, 72, 0, 0, 1, 36⟩
  if last.place = 36 then return last.text else none

end VaultWatch.Punycode
