import Mathlib.Data.List.Basic
import Mathlib.Data.List.TakeWhile
import VaultWatch.Config.Placeholder

/-!
# Placeholders

What the expansion of a text comes to. A text is a row of pieces (`Placeholder.pieces`),
placeholders and characters that are part of none, and `Placeholder.substitute` puts the value of
each placeholder in its place, in one pass and without a look at the values. Expansion replaces the
placeholders of one name after another, in the text so far; each of these steps is a pass
(`Placeholder.replace_eq_substitute`), but all of them together are not, since a value that has been
put in may hold the placeholders of later steps, alone or with the text around it.

The main statement, `Placeholder.expand_eq_substitute_iff`, says which texts are safe whatever the
values: those with at most one placeholder. Any other text is safe with values that hold no dollar
sign, if each of its own begins a placeholder.
-/

namespace VaultWatch

/-! ### Replacing words -/

namespace Search

variable {word value : List Char}

theorem replaceFrom_eq_drop (word value : List Char) (skip : Nat) (text : List Char) :
    replaceFrom word value skip text = replaceFrom word value 0 (text.drop skip) := by
  induction text generalizing skip with
  | nil => cases skip <;> rfl
  | cons c text ih =>
    cases skip with
    | zero => rfl
    | succ skip => exact ih skip

theorem replace_nil (word value : List Char) : replace word value [] = [] := by
  unfold replace
  split <;> rfl

/-- The word at the beginning becomes the value. -/
theorem replace_append (hword : word ≠ []) (rest : List Char) :
    replace word value (word ++ rest) = value ++ replace word value rest := by
  obtain ⟨c, tail, rfl⟩ := List.exists_cons_of_ne_nil hword
  have hprefix : (c :: tail).isPrefixOf (c :: (tail ++ rest)) = true :=
    List.isPrefixOf_iff_prefix.mpr ⟨rest, rfl⟩
  change replaceFrom (c :: tail) value 0 (c :: (tail ++ rest)) = _
  rw [replaceFrom, if_pos hprefix, replaceFrom_eq_drop, List.length_cons, Nat.add_sub_cancel,
    List.drop_left]
  rfl

/-- A character with which no occurrence of the word begins is left alone. -/
theorem replace_cons {c : Char} {rest : List Char} (h : ¬ word <+: c :: rest) :
    replace word value (c :: rest) = c :: replace word value rest := by
  have hword : word.isEmpty = false := by
    cases word with
    | nil => exact absurd (List.nil_prefix) h
    | cons d word => rfl
  have hnot : word.isPrefixOf (c :: rest) = false := by
    rw [Bool.eq_false_iff, ne_eq, List.isPrefixOf_iff_prefix]
    exact h
  simp only [replace, hword, replaceFrom, hnot, Bool.false_eq_true, if_false]

/-- So is a text without the character that the word begins with. -/
theorem replace_append_of_not_mem {first : Char} {tail : List Char} {text : List Char}
    (h : first ∉ text) (rest : List Char) :
    replace (first :: tail) value (text ++ rest) = text ++ replace (first :: tail) value rest := by
  induction text with
  | nil => rfl
  | cons c text ih =>
    have hne : first ≠ c := fun heq => h (heq ▸ List.mem_cons_self)
    have hnot : ¬ first :: tail <+: c :: (text ++ rest) :=
      fun hprefix => hne (List.cons_prefix_cons.mp hprefix).1
    rw [List.cons_append, replace_cons hnot, ih fun hmem => h (List.mem_cons_of_mem c hmem)]
    rfl

end Search

namespace Placeholder

/-! ### Names -/

/-- A name of a variable. -/
def IsName : List Char → Prop
  | [] => False
  | c :: rest => isNameStart c = true ∧ ∀ d ∈ rest, isNameRest d = true

theorem IsName.not_mem {name : List Char} (h : IsName name) {d : Char}
    (hd : isNameRest d = false) : d ∉ name := by
  cases name with
  | nil => exact List.not_mem_nil
  | cons c rest =>
    intro hmem
    rcases List.mem_cons.mp hmem with rfl | hrest
    · have hstart : isNameRest d = true := by simp [isNameRest, h.1]
      rw [hd] at hstart
      cases hstart
    · rw [h.2 d hrest] at hd
      cases hd

/-- Placeholders hold a dollar sign at the beginning only. -/
theorem IsName.dollar_not_mem {name : List Char} (h : IsName name) :
    '$' ∉ '\x7b' :: name ++ ['\x7d'] := by
  have hname : '$' ∉ name := h.not_mem (by decide)
  simp [hname]

/-- **What stands in front**: the placeholder of a name, exactly if the text begins with it. -/
theorem name?_eq_some_iff {text name : List Char} :
    name? text = some name ↔ IsName name ∧ ofName name <+: text := by
  constructor
  · intro h
    unfold name? at h
    split at h
    · rename_i c rest
      split at h
      · rename_i hstart
        split at h
        · rename_i tail hdrop
          cases h
          have hsplit : rest = rest.takeWhile isNameRest ++ '\x7d' :: tail := by
            rw [← hdrop, List.takeWhile_append_dropWhile]
          refine ⟨⟨hstart, fun d hd => List.mem_takeWhile_imp hd⟩, tail, ?_⟩
          simp only [ofName, List.cons_append, List.append_assoc, List.nil_append]
          rw [← hsplit]
        · cases h
      · cases h
    · cases h
  · rintro ⟨hname, tail, rfl⟩
    cases name with
    | nil => exact absurd hname id
    | cons c rest =>
      obtain ⟨hstart, hrest⟩ := hname
      have hdrop : (rest ++ '\x7d' :: tail).dropWhile isNameRest = '\x7d' :: tail := by
        rw [List.dropWhile_append_of_pos hrest]
        rfl
      have htake : (rest ++ '\x7d' :: tail).takeWhile isNameRest = rest := by
        rw [List.takeWhile_append_of_pos hrest]
        exact List.append_nil _
      have htext : ofName (c :: rest) ++ tail = '$' :: '\x7b' :: c :: (rest ++ '\x7d' :: tail) := by
        simp [ofName]
      rw [htext]
      simp only [name?, hstart, if_true, hdrop, htake]

variable {name other value text rest : List Char}

theorem name?_ofName_append (hname : IsName name) (rest : List Char) :
    name? (ofName name ++ rest) = some name :=
  name?_eq_some_iff.mpr ⟨hname, List.prefix_append _ _⟩

theorem not_prefix_of_name?_eq_none (h : name? text = none) (hname : IsName name) :
    ¬ ofName name <+: text := by
  intro hprefix
  rw [name?_eq_some_iff.mpr ⟨hname, hprefix⟩] at h
  cases h

/-- One placeholder at most stands in front. -/
theorem not_prefix_of_ne (hname : IsName name) (hother : IsName other) (hne : other ≠ name)
    (rest : List Char) : ¬ ofName other <+: ofName name ++ rest := by
  intro hprefix
  have hfound := name?_eq_some_iff.mpr ⟨hother, hprefix⟩
  rw [name?_ofName_append hname] at hfound
  exact hne (Option.some.inj hfound).symm

/-! ### Pieces -/

/-- A piece of a text: a placeholder, or a character that is part of none. -/
inductive Piece where
  | slot (name : List Char)
  | plain (c : Char)
  deriving DecidableEq

/-- The name of a piece that is a placeholder. -/
def Piece.name? : Piece → Option (List Char)
  | .slot name => some name
  | .plain _ => none

/-- A piece with a value in the place of its placeholder. -/
def Piece.fill (value : List Char → List Char) : Piece → List Char
  | .slot name => value name
  | .plain c => [c]

/-- The pieces of a text in order. `skip` counts the characters of a placeholder that are still to
be passed over. -/
def piecesFrom : (skip : Nat) → List Char → List Piece
  | _, [] => []
  | skip + 1, _ :: text => piecesFrom skip text
  | 0, c :: text =>
    match Placeholder.name? (c :: text) with
    | some name => .slot name :: piecesFrom ((ofName name).length - 1) text
    | none => .plain c :: piecesFrom 0 text

/-- The pieces of a text in order. -/
def pieces (text : List Char) : List Piece := piecesFrom 0 text

/-- The text with the value of each placeholder in its place, and all else as it is. -/
def substitute (value : List Char → List Char) (text : List Char) : List Char :=
  (pieces text).flatMap (Piece.fill value)

theorem piecesFrom_eq_drop (skip : Nat) (text : List Char) :
    piecesFrom skip text = pieces (text.drop skip) := by
  induction text generalizing skip with
  | nil => cases skip <;> rfl
  | cons c text ih =>
    cases skip with
    | zero => rfl
    | succ skip => exact ih skip

theorem pieces_slot (hname : IsName name) (rest : List Char) :
    pieces (ofName name ++ rest) = .slot name :: pieces rest := by
  have hfront := name?_ofName_append hname rest
  have hrest : List.drop ((ofName name).length - 1) ('\x7b' :: name ++ ['\x7d'] ++ rest) = rest :=
    List.drop_left
  change piecesFrom 0 ('$' :: ('\x7b' :: name ++ ['\x7d'] ++ rest)) = _
  change Placeholder.name? ('$' :: ('\x7b' :: name ++ ['\x7d'] ++ rest)) = _ at hfront
  simp only [piecesFrom, hfront]
  rw [piecesFrom_eq_drop, hrest]

theorem pieces_plain {c : Char} (h : name? (c :: rest) = none) :
    pieces (c :: rest) = .plain c :: pieces rest := by
  simp only [pieces, piecesFrom, h]

/-- **Induction on a text by its pieces.** -/
@[elab_as_elim]
theorem text_induction {motive : List Char → Prop} (nil : motive [])
    (slot : ∀ name rest, IsName name → motive rest → motive (ofName name ++ rest))
    (plain : ∀ c rest, name? (c :: rest) = none → motive rest → motive (c :: rest))
    (text : List Char) : motive text := by
  induction hlength : text.length using Nat.strongRecOn generalizing text with
  | _ n ih =>
    cases text with
    | nil => exact nil
    | cons c rest =>
      cases hfront : name? (c :: rest) with
      | none => exact plain c rest hfront (ih rest.length (by simp [← hlength]) rest rfl)
      | some name =>
        obtain ⟨hname, tail, htail⟩ := name?_eq_some_iff.mp hfront
        rw [← htail] at hlength ⊢
        have hshorter : tail.length < n := by
          rw [← hlength, List.length_append]
          exact Nat.lt_add_of_pos_left (Nat.succ_pos _)
        exact slot name tail hname (ih tail.length hshorter tail rfl)

/-- The names of a text are those of its pieces. -/
theorem names_eq_filterMap (text : List Char) :
    names text = (pieces text).filterMap Piece.name? := by
  have hfrom : ∀ skip, namesFrom skip text = (piecesFrom skip text).filterMap Piece.name? := by
    induction text with
    | nil =>
      intro skip
      cases skip <;> rfl
    | cons c text ih =>
      intro skip
      cases skip with
      | succ skip => exact ih skip
      | zero =>
        simp only [namesFrom, piecesFrom]
        cases Placeholder.name? (c :: text) with
        | none => exact ih 0
        | some name => exact congrArg (name :: ·) (ih _)
  exact hfrom 0

theorem names_slot (hname : IsName name) (rest : List Char) :
    names (ofName name ++ rest) = name :: names rest := by
  rw [names_eq_filterMap, pieces_slot hname, names_eq_filterMap]
  rfl

theorem names_plain {c : Char} (h : name? (c :: rest) = none) :
    names (c :: rest) = names rest := by
  rw [names_eq_filterMap, pieces_plain h, names_eq_filterMap]
  rfl

theorem isName_of_mem (h : name ∈ names text) : IsName name := by
  induction text using text_induction with
  | nil => cases h
  | slot other rest hother ih =>
    rw [names_slot hother] at h
    rcases List.mem_cons.mp h with rfl | hrest
    · exact hother
    · exact ih hrest
  | plain c rest hnone ih =>
    rw [names_plain hnone] at h
    exact ih h

/-! ### One pass -/

variable {f g : List Char → List Char}

theorem substitute_slot (f : List Char → List Char) (hname : IsName name) (rest : List Char) :
    substitute f (ofName name ++ rest) = f name ++ substitute f rest := by
  rw [substitute, pieces_slot hname]
  rfl

theorem substitute_plain (f : List Char → List Char) {c : Char} (h : name? (c :: rest) = none) :
    substitute f (c :: rest) = c :: substitute f rest := by
  rw [substitute, pieces_plain h]
  rfl

/-- Only the values of the text's own placeholders matter. -/
theorem substitute_congr (h : ∀ name ∈ names text, f name = g name) :
    substitute f text = substitute g text := by
  induction text using text_induction with
  | nil => rfl
  | slot name rest hname ih =>
    rw [names_slot hname] at h
    rw [substitute_slot f hname, substitute_slot g hname, h name List.mem_cons_self,
      ih fun other hother => h other (List.mem_cons_of_mem name hother)]
  | plain c rest hnone ih =>
    rw [names_plain hnone] at h
    rw [substitute_plain f hnone, substitute_plain g hnone, ih h]

/-- A text is what its pieces say. -/
theorem substitute_ofName (text : List Char) : substitute ofName text = text := by
  induction text using text_induction with
  | nil => rfl
  | slot name rest hname ih => rw [substitute_slot _ hname, ih]
  | plain c rest hnone ih => rw [substitute_plain _ hnone, ih]

/-- Replacing a placeholder passes over the placeholders of other names. -/
theorem replace_append_of_ne (hname : IsName name) (hother : IsName other) (hne : other ≠ name)
    (value rest : List Char) :
    Search.replace (ofName other) value (ofName name ++ rest) =
      ofName name ++ Search.replace (ofName other) value rest := by
  have hnot := not_prefix_of_ne hname hother hne rest
  have htail : Search.replace (ofName other) value ('\x7b' :: name ++ ['\x7d'] ++ rest) =
      '\x7b' :: name ++ ['\x7d'] ++ Search.replace (ofName other) value rest :=
    Search.replace_append_of_not_mem hname.dollar_not_mem rest
  exact (Search.replace_cons hnot).trans (congrArg ('$' :: ·) htail)

/-- **One step of an expansion** is a pass that leaves the other placeholders as they are. -/
theorem replace_eq_substitute (hname : IsName name) (value text : List Char) :
    Search.replace (ofName name) value text =
      substitute (fun other => if other = name then value else ofName other) text := by
  induction text using text_induction with
  | nil => exact Search.replace_nil _ _
  | slot other rest hother ih =>
    rw [substitute_slot _ hother, ← ih]
    by_cases heq : other = name
    · rw [if_pos heq, heq]
      exact Search.replace_append (List.cons_ne_nil _ _) rest
    · rw [if_neg heq]
      exact replace_append_of_ne hother hname (Ne.symm heq) value rest
  | plain c rest hnone ih =>
    have hnot := not_prefix_of_name?_eq_none hnone hname
    rw [substitute_plain _ hnone, Search.replace_cons hnot, ih]

/-- The expansion of a text with at most one placeholder is a pass. -/
theorem expand_of_length_le (value : List Char → List Char) (h : (names text).length ≤ 1) :
    expand value text = substitute value text := by
  cases hnames : names text with
  | nil =>
    have hsame : substitute ofName text = substitute value text := by
      refine substitute_congr fun name hname => ?_
      rw [hnames] at hname
      cases hname
    rw [expand, hnames, List.foldl_nil, ← hsame, substitute_ofName]
  | cons name rest =>
    have hrest : rest = [] := by
      rw [hnames, List.length_cons] at h
      exact List.eq_nil_of_length_eq_zero (by omega)
    have hname : IsName name := isName_of_mem (hnames ▸ List.mem_cons_self)
    have hpass : expand value text = Search.replace (ofName name) (value name) text := by
      rw [expand, hnames, hrest]
      rfl
    rw [hpass, replace_eq_substitute hname]
    refine substitute_congr fun other hother => ?_
    rw [hnames, hrest, List.mem_singleton] at hother
    rw [if_pos hother, hother]

/-! ### Values without a dollar sign -/

/-- The values of the placeholders that have been dealt with, and the placeholders of all others. -/
def valueOrSelf (value : List Char → List Char) (done : List (List Char)) (name : List Char) :
    List Char :=
  if name ∈ done then value name else ofName name

/-- If no dollar sign is left but those of placeholders, one step of an expansion replaces the
placeholders of its name where they stood from the beginning, and nothing else. -/
theorem replace_valueOrSelf {value : List Char → List Char} (hname : IsName name)
    (done : List (List Char)) {row : List Piece}
    (hslots : ∀ other, .slot other ∈ row → IsName other) (hplain : .plain '$' ∉ row)
    (hvalues : ∀ other, .slot other ∈ row → '$' ∉ value other) :
    Search.replace (ofName name) (value name) (row.flatMap (Piece.fill (valueOrSelf value done))) =
      row.flatMap (Piece.fill (valueOrSelf value (done ++ [name]))) := by
  induction row with
  | nil => exact Search.replace_nil _ _
  | cons piece row ih =>
    have hrest := ih (fun other hother => hslots other (List.mem_cons_of_mem piece hother))
      (fun hmem => hplain (List.mem_cons_of_mem piece hmem))
      (fun other hother => hvalues other (List.mem_cons_of_mem piece hother))
    rw [List.flatMap_cons, List.flatMap_cons, ← hrest]
    cases piece with
    | plain c =>
      have hne : '$' ∉ [c] := by
        intro hmem
        rw [← List.mem_singleton.mp hmem] at hplain
        exact hplain List.mem_cons_self
      exact Search.replace_append_of_not_mem hne _
    | slot other =>
      have hother : IsName other := hslots other List.mem_cons_self
      by_cases hdone : other ∈ done
      · have hvalue : valueOrSelf value done other = value other := if_pos hdone
        have hstill : valueOrSelf value (done ++ [name]) other = value other :=
          if_pos (List.mem_append_left [name] hdone)
        simp only [Piece.fill, hvalue, hstill]
        exact Search.replace_append_of_not_mem (hvalues other List.mem_cons_self) _
      · have hself : valueOrSelf value done other = ofName other := if_neg hdone
        by_cases heq : other = name
        · subst heq
          have hnow : valueOrSelf value (done ++ [other]) other = value other :=
            if_pos (List.mem_append_right done List.mem_cons_self)
          simp only [Piece.fill, hself, hnow]
          exact Search.replace_append (List.cons_ne_nil _ _) _
        · have hstill : valueOrSelf value (done ++ [name]) other = ofName other := by
            refine if_neg fun hmem => ?_
            rcases List.mem_append.mp hmem with hold | hnew
            · exact hdone hold
            · exact heq (List.mem_singleton.mp hnew)
          simp only [Piece.fill, hself, hstill]
          exact replace_append_of_ne hother hname (Ne.symm heq) _ _

theorem mem_names_of_slot (h : .slot name ∈ pieces text) : name ∈ names text := by
  rw [names_eq_filterMap]
  exact List.mem_filterMap.mpr ⟨.slot name, h, rfl⟩

/-- Then the steps together are a pass. -/
theorem expand_of_dollar_not_mem {value : List Char → List Char} (hplain : .plain '$' ∉ pieces text)
    (hvalues : ∀ name ∈ names text, '$' ∉ value name) :
    expand value text = substitute value text := by
  have hsteps : ∀ (todo done : List (List Char)), (∀ name ∈ todo, IsName name) →
      todo.foldl (fun sofar name => Search.replace (ofName name) (value name) sofar)
        (substitute (valueOrSelf value done) text) =
      substitute (valueOrSelf value (done ++ todo)) text := by
    intro todo
    induction todo with
    | nil =>
      intro done _
      rw [List.append_nil]
      rfl
    | cons name todo ih =>
      intro done hnames
      have hstep := replace_valueOrSelf (hnames name List.mem_cons_self) done
        (fun other hother => isName_of_mem (mem_names_of_slot hother)) hplain
        (fun other hother => hvalues other (mem_names_of_slot hother))
      rw [List.foldl_cons, substitute, hstep, List.append_cons done name todo]
      exact ih (done ++ [name]) fun other hother => hnames other (List.mem_cons_of_mem name hother)
  have hfirst : substitute (valueOrSelf value []) text = text := by
    refine (substitute_congr fun name _ => ?_).trans (substitute_ofName text)
    exact if_neg List.not_mem_nil
  have hall := hsteps (names text) [] fun name hname => isName_of_mem hname
  rw [hfirst, List.nil_append] at hall
  rw [expand, hall]
  exact substitute_congr fun name hname => if_pos hname

/-! ### Values that hold placeholders -/

/-- A piece of a text that has no dollar sign stands in the text whatever the values that begin with
one. -/
theorem prefix_of_prefix_substitute {value : List Char → List Char}
    (hvalue : ∀ name, ∃ tail, value name = '$' :: tail) {part : List Char} (hpart : '$' ∉ part)
    (h : part <+: substitute value text) : part <+: text := by
  induction text using text_induction generalizing part with
  | nil => exact h
  | slot name rest hname ih =>
    obtain ⟨tail, htail⟩ := hvalue name
    rw [substitute_slot _ hname, htail, List.cons_append] at h
    cases part with
    | nil => exact List.nil_prefix
    | cons c part =>
      have hdollar : c = '$' := (List.cons_prefix_cons.mp h).1
      rw [hdollar] at hpart
      exact absurd List.mem_cons_self hpart
  | plain c rest hnone ih =>
    rw [substitute_plain _ hnone] at h
    cases part with
    | nil => exact List.nil_prefix
    | cons d part =>
      obtain ⟨heq, htail⟩ := List.cons_prefix_cons.mp h
      rw [heq]
      exact List.cons_prefix_cons.mpr
        ⟨rfl, ih (fun hmem => hpart (List.mem_cons_of_mem d hmem)) htail⟩

/-- The names of a pass with values that are made of placeholders, each beginning with its own. -/
theorem names_substitute {more : List Char → List (List Char)}
    (hmore : ∀ name, ∀ other ∈ more name, IsName other) (text : List Char) :
    names (substitute (fun name => (name :: more name).flatMap ofName) text) =
      (names text).flatMap fun name => name :: more name := by
  have hrow : ∀ (row : List (List Char)) (rest : List Char), (∀ name ∈ row, IsName name) →
      names (row.flatMap ofName ++ rest) = row ++ names rest := by
    intro row rest
    induction row with
    | nil =>
      intro _
      rfl
    | cons name row ih =>
      intro hnames
      rw [List.flatMap_cons, List.append_assoc, names_slot (hnames name List.mem_cons_self),
        ih fun other hother => hnames other (List.mem_cons_of_mem name hother)]
      rfl
  induction text using text_induction with
  | nil => rfl
  | slot name rest hname ih =>
    have hnames : ∀ other ∈ name :: more name, IsName other := by
      intro other hother
      rcases List.mem_cons.mp hother with rfl | htail
      · exact hname
      · exact hmore name other htail
    rw [substitute_slot _ hname, names_slot hname, hrow _ _ hnames, ih]
    rfl
  | plain c rest hnone ih =>
    have hdollar : ∀ name, ∃ tail, (name :: more name).flatMap ofName = '$' :: tail :=
      fun name => ⟨_, rfl⟩
    have hstill : name? (c :: substitute (fun name => (name :: more name).flatMap ofName) rest) =
        none := by
      -- a placeholder in front would have stood in front before
      rw [Option.eq_none_iff_forall_ne_some]
      intro name hsome
      obtain ⟨hname, hprefix⟩ := name?_eq_some_iff.mp hsome
      obtain ⟨heq, htail⟩ := List.cons_prefix_cons.mp hprefix
      have hbefore := prefix_of_prefix_substitute hdollar hname.dollar_not_mem htail
      exact not_prefix_of_name?_eq_none hnone hname (List.cons_prefix_cons.mpr ⟨heq, hbefore⟩)
    rw [substitute_plain _ hnone, names_plain hstill, names_plain hnone, ih]

/-- Each of some names with another one behind it. -/
def followed (last name : List Char) (row : List (List Char)) : List (List Char) :=
  row.flatMap fun other => other :: if other = name then [last] else []

theorem count_followed (last name : List Char) (row : List (List Char)) :
    (followed last name row).count last = row.count last + row.count name := by
  induction row with
  | nil => rfl
  | cons other row ih =>
    have hcons : followed last name (other :: row) =
        other :: ((if other = name then [last] else []) ++ followed last name row) := rfl
    rw [hcons, List.count_cons, List.count_append, ih, List.count_cons, List.count_cons]
    by_cases heq : other = name
    · simp [heq]
      omega
    · simp [heq]
      omega

theorem mem_followed (last name : List Char) {row : List (List Char)} (h : other ∈ row) :
    other ∈ followed last name row :=
  List.mem_flatMap.mpr ⟨other, h, List.mem_cons_self⟩

/-- Each of some steps adds one of the last name or more. -/
theorem count_foldl_followed_ge (last : List Char) {steps row : List (List Char)}
    (h : ∀ name ∈ steps, name ∈ row) :
    row.count last + steps.length ≤
      (steps.foldl (fun row name => followed last name row) row).count last := by
  induction steps generalizing row with
  | nil => exact Nat.le_refl _
  | cons name steps ih =>
    have hrest := ih fun other hother =>
      mem_followed last name (h other (List.mem_cons_of_mem name hother))
    have hone : 0 < row.count name := List.count_pos_iff.mpr (h name List.mem_cons_self)
    rw [count_followed] at hrest
    rw [List.foldl_cons, List.length_cons]
    omega

/-- If there is another step before it, the step for the last name itself adds two or more. -/
theorem count_foldl_followed_gt {last : List Char} {before row : List (List Char)}
    (hlast : last ∈ row) (hbefore : ∀ name ∈ before, name ∈ row) (hlength : 1 ≤ before.length) :
    row.count last + (before.length + 1) <
      ((before ++ [last]).foldl (fun row name => followed last name row) row).count last := by
  have hmany := count_foldl_followed_ge last hbefore
  have hone : 0 < row.count last := List.count_pos_iff.mpr hlast
  rw [List.foldl_append, List.foldl_cons, List.foldl_nil, count_followed]
  omega

/-- A step with such a value puts one more name behind each of its own. -/
theorem names_replace_followed {last : List Char} (hlast : IsName last) (hname : IsName name)
    (text : List Char) :
    names (Search.replace (ofName name) (ofName name ++ ofName last) text) =
      followed last name (names text) := by
  let more (other : List Char) : List (List Char) := if other = name then [last] else []
  have hmore : ∀ other, ∀ behind ∈ more other, IsName behind := by
    intro other behind hbehind
    by_cases heq : other = name
    · rw [show more other = [last] from if_pos heq, List.mem_singleton] at hbehind
      exact hbehind ▸ hlast
    · rw [show more other = [] from if_neg heq] at hbehind
      cases hbehind
  have hvalue : (fun other => if other = name then ofName name ++ ofName last else ofName other) =
      fun other => (other :: more other).flatMap ofName := by
    funext other
    by_cases heq : other = name
    · simp [more, heq]
    · simp [more, heq]
  rw [replace_eq_substitute hname, hvalue, names_substitute hmore]
  rfl

theorem names_foldl_replace {last : List Char} (hlast : IsName last) {steps : List (List Char)}
    (hsteps : ∀ name ∈ steps, IsName name) (text : List Char) :
    names (steps.foldl
        (fun sofar name => Search.replace (ofName name) (ofName name ++ ofName last) sofar) text) =
      steps.foldl (fun row name => followed last name row) (names text) := by
  induction steps generalizing text with
  | nil => rfl
  | cons name steps ih =>
    rw [List.foldl_cons, List.foldl_cons,
      ih fun other hother => hsteps other (List.mem_cons_of_mem name hother),
      names_replace_followed hlast (hsteps name List.mem_cons_self)]

theorem count_names_substitute {last : List Char} (hlast : IsName last) (text : List Char) :
    (names (substitute (fun name => ofName name ++ ofName last) text)).count last =
      (names text).count last + (names text).length := by
  have hvalue : (fun name => ofName name ++ ofName last) =
      fun name => (name :: [last]).flatMap ofName := by
    funext name
    simp
  rw [hvalue, names_substitute fun name other hother => List.mem_singleton.mp hother ▸ hlast]
  induction names text with
  | nil => rfl
  | cons name row ih =>
    rw [List.flatMap_cons, List.count_append, ih, List.count_cons, List.count_cons, List.count_cons,
      List.count_nil, List.length_cons]
    simp only [beq_self_eq_true, if_true]
    omega

/-- With values that hold the last of a text's names behind their own, the expansion of a text with
two placeholders or more holds more placeholders than a pass would leave in it. -/
theorem exists_expand_ne (h : 2 ≤ (names text).length) :
    ∃ last, expand (fun name => ofName name ++ ofName last) text ≠
      substitute (fun name => ofName name ++ ofName last) text := by
  obtain hnil | ⟨before, last, hnames⟩ := (names text).eq_nil_or_concat'
  · rw [hnil, List.length_nil] at h
    omega
  have hmem : ∀ name ∈ names text, IsName name := fun name hname => isName_of_mem hname
  have hlast : last ∈ names text := by
    rw [hnames]
    exact List.mem_append_right before List.mem_cons_self
  have hbefore : ∀ name ∈ before, name ∈ names text := by
    intro name hname
    rw [hnames]
    exact List.mem_append_left [last] hname
  have hlength : (names text).length = before.length + 1 := by
    rw [hnames, List.length_append, List.length_singleton]
  have hmore := count_foldl_followed_gt hlast hbefore (by omega)
  rw [← hnames] at hmore
  refine ⟨last, fun heq => ?_⟩
  have hcount := count_names_substitute (hmem last hlast) text
  rw [← heq, expand, names_foldl_replace (hmem last hlast) hmem] at hcount
  omega

/-! ### Environments -/

/-- **Which texts are expanded in one pass.** In every environment at once, exactly those with at
most one placeholder are. A text without a dollar sign but those of its placeholders is, in every
environment in which the values of these hold none either. -/
theorem expand_eq_substitute_iff (text : List Char) :
    ((∀ env, expand (valueIn env) text = substitute (valueIn env) text) ↔
      (names text).length ≤ 1) ∧
      (.plain '$' ∉ pieces text →
        ∀ env, (∀ name ∈ names text, '$' ∉ valueIn env name) →
          expand (valueIn env) text = substitute (valueIn env) text) := by
  refine ⟨⟨fun hall => ?_, fun hlength env => expand_of_length_le _ hlength⟩,
    fun hplain env hvalues => expand_of_dollar_not_mem hplain hvalues⟩
  by_contra hlength
  have htwo : 2 ≤ (names text).length := by omega
  obtain ⟨last, hne⟩ := exists_expand_ne htwo
  let env (name : String) : Option String :=
    some (String.ofList (ofName name.toList ++ ofName last))
  have hvalue : valueIn env = fun name => ofName name ++ ofName last := by
    funext name
    simp [valueIn, env]
  have hsame := hall env
  rw [hvalue] at hsame
  exact hne hsame

/-- Two placeholders in a row, with values as they are in practice. -/
theorem expand_userAndKey :
    let env (name : String) := if name = "USER" then some "watch" else some "k3y"
    let text := ofName ['U', 'S', 'E', 'R'] ++ ':' :: ofName ['K', 'E', 'Y']
    (.plain '$' ∉ pieces text ∧ ∀ name ∈ names text, '$' ∉ valueIn env name) ∧
      expand (valueIn env) text = substitute (valueIn env) text := by
  intro env text
  have hplain : .plain '$' ∉ pieces text := by decide
  have hvalues : ∀ name ∈ names text, '$' ∉ valueIn env name := by decide
  exact ⟨⟨hplain, hvalues⟩, (expand_eq_substitute_iff text).2 hplain env hvalues⟩

/-- Not every text is expanded in one pass: a value may hold the placeholder that stands behind its
own. -/
theorem expand_nested_ne_substitute :
    ¬ ∀ (env : String → Option String) (text : List Char),
      expand (valueIn env) text = substitute (valueIn env) text := by
  intro hall
  let env (name : String) := if name = "A" then some "$\x7bB\x7d" else some "b"
  have hsame := hall env (ofName ['A'] ++ ofName ['B'])
  have htwice : expand (valueIn env) (ofName ['A'] ++ ofName ['B']) = ['b', 'b'] := by decide
  have honce : substitute (valueIn env) (ofName ['A'] ++ ofName ['B']) =
      ofName ['B'] ++ ['b'] := by decide
  rw [htwice, honce] at hsame
  exact absurd hsame (by decide)

end Placeholder

end VaultWatch
