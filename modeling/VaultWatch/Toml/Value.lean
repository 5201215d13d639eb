/-!
# TOML values

The tree that a document stands for. A table remembers how it was written, because that decides what
may still be added to it further down the document. Floats and points in time are kept as kinds
only: no setting has either.
-/

namespace VaultWatch

/-- How a table came about. -/
inductive TableForm where
  /-- It has a header of its own. -/
  | header
  /-- It stands above a table with a header and has none itself. -/
  | implied
  /-- It stands above the last part of a dotted key. -/
  | dotted
  /-- It is written between braces. -/
  | inline
  deriving DecidableEq, Repr

/-- A TOML value. -/
inductive Toml where
  | string (value : String)
  | integer (value : Int)
  | float
  | bool (value : Bool)
  | time
  | array (items : List Toml)
  | table (form : TableForm) (entries : List (String × Toml))
  /-- The tables under headers with double brackets, first to last. -/
  | tables (items : List (List (String × Toml)))

namespace Toml

/-- The entries of a table. -/
abbrev Entries := List (String × Toml)

/-! ### Entries -/

/-- The value under a key. -/
def find? (key : String) (entries : Entries) : Option Toml :=
  entries.lookup key

/-- The entries with a key's value put in place, or added at the end. -/
def put (key : String) (value : Toml) : Entries → Entries
  | [] => [(key, value)]
  | (k, v) :: rest => if k = key then (key, value) :: rest else (k, v) :: put key value rest

/-! ### Growing a document -/

/-- Applies a change inside the table that a path leads to. Missing tables on the way are made in
the given form; the last of the tables under double brackets is the one meant. With `dotted`, a
table that has a header or braces may not be entered. -/
def descend (dotted : Bool) (change : TableForm → Entries → Option Entries) :
    (path : List String) → TableForm → Entries → Option Entries
  | [], form, entries => change form entries
  | key :: path, _, entries =>
    match find? key entries with
    | none =>
      let form := if dotted then .dotted else .implied
      (descend dotted change path form []).map fun inner => put key (.table form inner) entries
    | some (.table form inner) =>
      -- Braces close a table for good, and a header closes it to dotted keys.
      if form = .inline ∨ (dotted = true ∧ form = .header) then none
      else
        (descend dotted change path form inner).map fun inner =>
          put key (.table form inner) entries
    | some (.tables items) =>
      -- What follows a header with double brackets goes into its latest table.
      match items.reverse with
      | [] => none
      | last :: before =>
        (descend dotted change path .header last).map fun last =>
          put key (.tables (last :: before).reverse) entries
    | some _ => none

/-- Adds a value under a dotted key. The table that takes it must have been made by dotted keys
too, and must not have the key yet. -/
def addDotted (path : List String) (key : String) (value : Toml) (entries : Entries) :
    Option Entries :=
  descend true
    (fun form inner =>
      if (path ≠ [] ∧ form ≠ .dotted) ∨ (find? key inner).isSome then none
      else some (put key value inner))
    path .header entries

/-- Opens the table of a header. It must be new, or stand above tables with headers only. -/
def openTable (path : List String) (key : String) (entries : Entries) : Option Entries :=
  descend false
    (fun _ inner =>
      match find? key inner with
      | none => some (put key (.table .header []) inner)
      | some (.table .implied below) => some (put key (.table .header below) inner)
      | some _ => none)
    path .header entries

/-- Opens a further table of a header with double brackets. -/
def openItem (path : List String) (key : String) (entries : Entries) : Option Entries :=
  descend false
    (fun _ inner =>
      match find? key inner with
      | none => some (put key (.tables [[]]) inner)
      | some (.tables items) => some (put key (.tables (items ++ [[]])) inner)
      | some _ => none)
    path .header entries

/-- Adds a value under a dotted key inside the table that the last header opened. -/
def addBelow (header : List String) (path : List String) (key : String) (value : Toml)
    (entries : Entries) : Option Entries :=
  descend false (fun _ inner => addDotted path key value inner) header .header entries

end Toml

end VaultWatch
