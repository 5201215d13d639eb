/-!
# Finding and replacing words

Splitting, substring tests and replacement on lists of characters.
-/

namespace VaultWatch.Search

/-- Splits a text at every occurrence of a character. -/
def split (mark : Char) : List Char → List (List Char)
  | [] => [[]]
  | c :: text =>
    if c = mark then [] :: split mark text
    else
      match split mark text with
      | part :: rest => (c :: part) :: rest
      | [] => [[c]]

/-- The word occurs in the text. -/
def contains (word : List Char) : List Char → Bool
  | [] => word.isEmpty
  | c :: text => word.isPrefixOf (c :: text) || contains word text

/-- Every occurrence of a word of the given length, from the left and without overlap, is replaced.
`skip` counts the characters of an occurrence that are still to be passed over. -/
def replaceFrom (word value : List Char) : (skip : Nat) → List Char → List Char
  | _, [] => []
  | skip + 1, _ :: text => replaceFrom word value skip text
  | 0, c :: text =>
    if word.isPrefixOf (c :: text) then value ++ replaceFrom word value (word.length - 1) text
    else c :: replaceFrom word value 0 text

/-- Every occurrence of a nonempty word, from the left and without overlap, becomes the value. -/
def replace (word value text : List Char) : List Char :=
  if word.isEmpty then text else replaceFrom word value 0 text

end VaultWatch.Search
