import VaultWatch.Url.Host

/-!
# Absolute web addresses

Whether a text is a web address that stands by itself: it has a scheme, and its authority, where it
has one, names a host and a port that can be. Paths, queries and fragments take any characters.
-/

namespace VaultWatch.Url

/-- Controls and spaces are cut off at both ends, and tabs and line breaks do not count at all. -/
def clean (text : List Char) : List Char :=
  let cut (t : List Char) : List Char := t.dropWhile (· ≤ ' ')
  (cut (cut text).reverse).reverse.filter fun c => c != '\t' && c != '\n' && c != '\r'

/-- The scheme in small letters, and the text behind its colon. -/
def splitScheme? (text : List Char) : Option (List Char × List Char) :=
  let inScheme (c : Char) : Bool := c.isAlphanum || c == '+' || c == '-' || c == '.'
  match text with
  | c :: _ =>
    if c.isAlpha then
      match text.dropWhile inScheme with
      | ':' :: rest => some ((text.takeWhile inScheme).map Char.toLower, rest)
      | _ => none
    else none
  | [] => none

/-- The web treats these schemes specially. -/
def isSpecial (scheme : List Char) : Bool :=
  ["http", "https", "ws", "wss", "ftp"].contains (String.ofList scheme)

/-- A character that ends an authority. -/
def endsAuthority (special : Bool) (c : Char) : Bool :=
  c == '/' || c == '?' || c == '#' || (special && c == '\\')

/-- The parts of an authority in front of its last at sign, if it has one, and behind it. -/
def splitUser (authority : List Char) : Option (List Char) × List Char :=
  if authority.contains '@' then
    let host := (authority.reverse.takeWhile (· != '@')).reverse
    (some (authority.take (authority.length - host.length - 1)), host)
  else (none, authority)

/-- The host and what stands behind it, which is nothing or starts with a colon. -/
def splitHost : (inBrackets : Bool) → List Char → List Char × List Char
  | _, [] => ([], [])
  | inBrackets, c :: rest =>
    if c = ':' ∧ inBrackets = false then ([], c :: rest)
    else
      let (host, behind) := splitHost (c == '[' || (inBrackets && c != ']')) rest
      (c :: host, behind)

/-- Nothing, or a colon with the decimal digits of a port, of which there may be none. A backslash
ends the port. -/
def isPort : List Char → Bool
  | [] => true
  | _ :: text =>
    let digits := text.takeWhile (· != '\\')
    digits.all Char.isDigit && (digits.isEmpty || ((number? 10 digits).getD 65536) ≤ 65535)

/-- What follows the slashes of a scheme that is treated specially starts with an authority, whose
host must not be empty. -/
def startsWithSpecialAuthority (text : List Char) : Bool :=
  let authority := text.takeWhile (!endsAuthority true ·)
  let (host, port) := splitHost false (splitUser authority).2
  !host.isEmpty && isHost host && isPort port

/-- What follows the slashes of any other scheme starts with an authority. The host may be empty if
nothing else is there: no port, and no more than a colon in front of an at sign, behind which, if
even that is missing, the text ends. -/
def startsWithOpaqueAuthority (text : List Char) : Bool :=
  let authority := text.takeWhile (!endsAuthority false ·)
  let (user?, rest) := splitUser authority
  let (host, port) := splitHost false rest
  if host.isEmpty then
    port.isEmpty && match user? with
      | none => true
      | some [] => text.length == authority.length
      | some user => user == [':']
  else isOpaqueHost host && isPort port

/-- A drive letter of a file address. -/
def isDrive : List Char → Bool
  | [letter, mark] => letter.isAlpha && (mark == ':' || mark == '|')
  | _ => false

/-- The text is an absolute web address. -/
def isAbsolute (text : String) : Bool :=
  match splitScheme? (clean text.toList) with
  | none => false
  | some (scheme, rest) =>
    -- Any number of slashes leads to the authority.
    if isSpecial scheme then
      startsWithSpecialAuthority (rest.dropWhile fun c => c == '/' || c == '\\')
    else if scheme = "file".toList then
      match rest with
      | a :: b :: rest =>
        let slash (c : Char) : Bool := c == '/' || c == '\\'
        if slash a && slash b then
          let host := rest.takeWhile (!endsAuthority true ·)
          host.isEmpty || isDrive host || isHost host
        else true
      | _ => true
    else
      match rest with
      | '/' :: '/' :: rest => startsWithOpaqueAuthority rest
      | _ => true

end VaultWatch.Url
