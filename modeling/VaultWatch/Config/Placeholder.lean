import VaultWatch.Text.Search

/-!
# Placeholders in configurations

A placeholder is a dollar sign and a name between braces; names are made of capitals, digits and
underscores and do not start with a digit. `expand` takes the placeholders of a text in order and,
for each, puts the variable's value in place of every occurrence in the text as it then stands, so
that a value which itself holds a later placeholder is expanded with it.
-/

namespace VaultWatch.Placeholder

/-! ### Names -/

/-- A character that a name may start with. -/
def isNameStart (c : Char) : Bool :=
  ('A' ≤ c && c ≤ 'Z') || c == '_'

/-- A character that a name may go on with. -/
def isNameRest (c : Char) : Bool :=
  isNameStart c || ('0' ≤ c && c ≤ '9')

/-- The placeholder of a name. -/
def ofName (name : List Char) : List Char :=
  '$' :: '\x7b' :: name ++ ['\x7d']

/-- The name of the placeholder that stands in front. -/
def name? : List Char → Option (List Char)
  | '$' :: '\x7b' :: c :: rest =>
    if isNameStart c then
      match rest.dropWhile isNameRest with
      | '\x7d' :: _ => some (c :: rest.takeWhile isNameRest)
      | _ => none
    else none
  | _ => none

/-- The names of all placeholders of a text in order, repeats included. `skip` counts the characters
of a placeholder that are still to be passed over. -/
def namesFrom : (skip : Nat) → List Char → List (List Char)
  | _, [] => []
  | skip + 1, _ :: text => namesFrom skip text
  | 0, c :: text =>
    match name? (c :: text) with
    | some name => name :: namesFrom ((ofName name).length - 1) text
    | none => namesFrom 0 text

/-- The names of all placeholders of a text in order. -/
def names (text : List Char) : List (List Char) :=
  namesFrom 0 text

/-! ### Expansion -/

/-- The value of a variable in an environment; one that is not set has the empty value. -/
def valueIn (env : String → Option String) (name : List Char) : List Char :=
  ((env (String.ofList name)).getD "").toList

/-- Puts the value of each placeholder of the text as it was given in place of all its occurrences,
one placeholder after another. -/
def expand (value : List Char → List Char) (text : List Char) : List Char :=
  (names text).foldl (fun sofar name => Search.replace (ofName name) (value name) sofar) text

end VaultWatch.Placeholder
