import VaultWatch.Domain.Name
import VaultWatch.Text.Utf8

/-!
# Hosts of web addresses

Which texts name a host: an IPv6 address between brackets, an IPv4 address in any of its spellings,
or a domain. A scheme that the web does not treat specially also takes any other text without
forbidden characters.
-/

namespace VaultWatch.Url

/-! ### Numbers -/

/-- The value of digits in a base; none if there are none or one is not of the base. -/
def number? (base : Nat) (digits : List Char) : Option Nat :=
  if digits.isEmpty then none
  else
    digits.foldlM (fun acc c =>
      match Hex.digit? c with
      | some d => if d < base then some (base * acc + d) else none
      | none => none) 0

/-! ### IPv4 addresses -/

/-- A part of an IPv4 address: decimal, octal behind `0`, or hexadecimal behind `0x`. -/
def ipv4Part? (part : List Char) : Option Nat :=
  match part with
  | [] => none
  | ['0', 'x'] | ['0', 'X'] => some 0
  | '0' :: 'x' :: digits => number? 16 digits
  | '0' :: 'X' :: digits => number? 16 digits
  | ['0'] => some 0
  | '0' :: digits => number? 8 digits
  | digits => number? 10 digits

/-- The parts between dots; one empty part at the end does not count. -/
def dotParts (domain : List Char) : List (List Char) :=
  let parts := Search.split '.' domain
  if 1 < parts.length ∧ parts.getLast? = some [] then parts.dropLast else parts

/-- The last part is a number, so that the whole must be an IPv4 address. -/
def endsInNumber (domain : List Char) : Bool :=
  match (dotParts domain).getLast? with
  | some last => (!last.isEmpty && last.all Char.isDigit) || (ipv4Part? last).isSome
  | none => false

/-- At most four parts; the last fills the bytes that the others leave, each of which takes one. -/
def isIpv4 (domain : List Char) : Bool :=
  let parts := dotParts domain
  match parts.mapM ipv4Part? with
  | some values =>
    match values.reverse with
    | last :: before =>
      values.length ≤ 4 && last < 1 <<< (8 * (5 - values.length)) && before.all (· < 256)
    | [] => false
  | none => false

/-! ### IPv6 addresses -/

/-- A decimal byte without a leading zero. -/
def isDecimalByte (part : List Char) : Bool :=
  part.all Char.isDigit && (part.head? != some '0' || part.length == 1) &&
    match number? 10 part with
    | some value => value < 256
    | none => false

/-- Four decimal bytes with dots between them. -/
def isDottedTail (text : List Char) : Bool :=
  let parts := Search.split '.' text
  parts.length == 4 && parts.all isDecimalByte

/-- The number of pieces of 16 bits that a row of them makes, with dotted bytes as the last two if
`dotted` allows; none if it is no such row. -/
def pieces? (dotted : Bool) (text : List Char) : Option Nat :=
  if text.isEmpty then some 0
  else
    let parts := Search.split ':' text
    let isPiece (part : List Char) : Bool :=
      1 ≤ part.length && part.length ≤ 4 && part.all fun c => (Hex.digit? c).isSome
    if parts.all isPiece then some parts.length
    else if dotted && parts.dropLast.all isPiece
        && (parts.getLast?.map isDottedTail).getD false then
      some (parts.length + 1)
    else none

/-- The texts in front of and behind the first double colon. -/
def splitDouble : List Char → Option (List Char × List Char)
  | ':' :: ':' :: rest => some ([], rest)
  | c :: rest => (splitDouble rest).map fun f => (c :: f.1, f.2)
  | [] => none

/-- Eight pieces, or fewer around one double colon. -/
def isIpv6 (text : List Char) : Bool :=
  match splitDouble text with
  | none => pieces? true text == some 8
  | some (front, behind) =>
    match pieces? false front, pieces? true behind with
    | some a, some b => a + b ≤ 7
    | _, _ => false

/-! ### Domains -/

/-- The bytes of a text with every escaped byte put in place of its escape. -/
def percentDecode : List Char → Bytes
  | '%' :: a :: b :: rest =>
    match Hex.digit? a, Hex.digit? b with
    | some h, some l => UInt8.ofNat (16 * h + l) :: percentDecode rest
    | _, _ => 0x25 :: percentDecode (a :: b :: rest)
  | c :: rest => Utf8.encode (String.singleton c) ++ percentDecode rest
  | [] => []

/-- The text is a host of a scheme that the web treats specially. -/
def isHost (text : List Char) : Bool :=
  match text with
  | '[' :: rest => rest.getLast? == some ']' && isIpv6 rest.dropLast
  | text =>
    match Utf8.decodeFrom 0 (percentDecode text) with
    | .error _ => false
    | .ok decoded =>
      -- Escapes come first, so that an escaped dot or digit counts like a plain one.
      match Domain.ofText? decoded with
      | none => false
      | some domain => !domain.isEmpty && (!endsInNumber domain || isIpv4 domain)

/-- The text is a host of any other scheme; it may be empty. -/
def isOpaqueHost (text : List Char) : Bool :=
  match text with
  | '[' :: rest => rest.getLast? == some ']' && isIpv6 rest.dropLast
  | text => text.all fun c => !("\x00\t\n\r #/:<>?@[\\]^|".toList.contains c)

end VaultWatch.Url
