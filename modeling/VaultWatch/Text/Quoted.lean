import VaultWatch.Text.Unprintable

/-!
# Paths in error texts

A path is shown between double quotes. Double quotes, backslashes and the usual control characters
are escaped with a backslash; a character that shows nothing or joins the one before it is written
as its code point.
-/

namespace VaultWatch.Quoted

/-- A character of a path. -/
def char (c : Char) : List Char :=
  if c = '\x00' then ['\\', '0']
  else if c = '\t' then ['\\', 't']
  else if c = '\n' then ['\\', 'n']
  else if c = '\r' then ['\\', 'r']
  else if c = '"' ∨ c = '\\' then ['\\', c]
  else if Unprintable.contains c then
    '\\' :: 'u' :: '\x7b' :: Nat.toDigits 16 c.toNat ++ ['\x7d']
  else [c]

/-- A path between quotes. -/
def path (text : String) : String :=
  String.ofList ('"' :: text.toList.flatMap char ++ ['"'])

end VaultWatch.Quoted
