import Mathlib.Tactic.SplitIfs
import VaultWatch.Json.Reader
import VaultWatch.Json.Writer

/-!
# Reading what was written

The reader gives back every value that records are made of, from the text that the writer gives it:
strings of any characters, natural numbers of any size, and lists and records of such values. Each
lemma says it with some text behind the value, so that what is written inside of an array or a
record can be read by the same lemma. The main statement is `Json.IsPlain.parse?_render`.
-/

namespace VaultWatch.Json

/-! ### Strings -/

/-- A control character is read back from its escape of four digits. -/
theorem codeUnit?_of_lt {c : Char} (h : c < ' ') :
    codeUnit? '0' '0' (Nat.digitChar (c.toNat / 16)) (Nat.digitChar (c.toNat % 16)) =
      some c.toNat := by
  have hc : c.toNat < 32 := h
  have hhigh : Hex.digit? (Nat.digitChar (c.toNat / 16)) = some (c.toNat / 16) :=
    Hex.digit?_digitChar (by omega)
  have hlow : Hex.digit? (Nat.digitChar (c.toNat % 16)) = some (c.toNat % 16) :=
    Hex.digit?_digitChar (by omega)
  have hzero : Hex.digit? '0' = some 0 := rfl
  simp only [codeUnit?, hzero, hhigh, hlow]
  congr 1
  omega

/-- A character that needs no escape is read as itself. -/
theorem readChars_cons {c : Char} (rest : List Char) (hquote : c ≠ '"') (hback : c ≠ '\\')
    (hcontrol : ¬ c < ' ') : readChars (c :: rest) = consChar (some c) (readChars rest) := by
  rw [readChars.eq_def]
  split
  · rename_i heq
    cases heq
  · rename_i heq
    exact absurd (List.cons.inj heq).1 hquote
  · rename_i heq
    exact absurd (List.cons.inj heq).1 hback
  · rename_i heq
    exact absurd (List.cons.inj heq).1 hback
  · rename_i heq
    obtain ⟨rfl, rfl⟩ := List.cons.inj heq
    rw [if_neg (not_or.mpr ⟨hcontrol, hback⟩)]

/-- What stands for a character inside of a string is read as this character. -/
theorem readChars_escapeChar (c : Char) (rest : List Char) :
    readChars (escapeChar c ++ rest) = consChar (some c) (readChars rest) := by
  unfold escapeChar
  split_ifs with hquote hback hnl hcr htab hbs hff hcontrol
  iterate 7
    subst c
    simp [readChars, shortEscape?]
  · have hc : c.toNat < 32 := hcontrol
    have hlead : isLead c.toNat = false := by simp [isLead]; omega
    have htrail : isTrail c.toNat = false := by simp [isTrail]; omega
    simp only [List.cons_append, List.nil_append]
    rw [readChars, codeUnit?_of_lt hcontrol]
    simp [hlead, htrail]
  · exact readChars_cons rest hquote hback hcontrol

theorem readChars_flatMap (chars rest : List Char) :
    readChars (chars.flatMap escapeChar ++ '"' :: rest) = some (chars.map some, rest) := by
  induction chars with
  | nil => simp [readChars]
  | cons c chars ih =>
    rw [List.flatMap_cons, List.append_assoc, readChars_escapeChar, ih]
    rfl

theorem allChars?_map_some (text : String) : allChars? (text.toList.map some) = some text := by
  simp [allChars?, List.filterMap_map]

/-! ### Numbers -/

/-- What may stand behind a value: nothing, or what ends or separates items. -/
def Ends (rest : List Char) : Prop := ∀ c ∈ rest.head?, c = ',' ∨ c = ']' ∨ c = '\x7d'

/-- Only zero is written with a leading zero. -/
theorem head?_toDigits {n : Nat} (h : n ≠ 0) : (Nat.toDigits 10 n).head? ≠ some '0' := by
  induction n using Nat.strongRecOn with
  | ind n ih =>
    by_cases hsmall : n < 10
    · have hall : ∀ n < 10, n ≠ 0 → Nat.digitChar n ≠ '0' := by decide
      rw [Nat.toDigits_of_lt_base hsmall, List.head?_singleton]
      exact fun heq => hall n hsmall h (Option.some.inj heq)
    · have hrest := ih (n / 10) (by omega) (by omega)
      rw [Nat.toDigits_of_base_le (by decide) (by omega), List.head?_append]
      cases hhead : (Nat.toDigits 10 (n / 10)).head? with
      | none => exact absurd (List.head?_eq_none_iff.mp hhead) Nat.toDigits_ne_nil
      | some c => rwa [hhead] at hrest

theorem ofDigits_toDigits (n : Nat) : ofDigits (Nat.toDigits 10 n) = n :=
  Nat.ofDigitChars_ten_toDigits

section Numbers

variable {rest : List Char} (hrest : Ends rest)

include hrest

theorem readDigits?_toDigits (n : Nat) :
    readDigits? (Nat.toDigits 10 n ++ rest) = some (Nat.toDigits 10 n, rest) := by
  have hdigits : ∀ c ∈ Nat.toDigits 10 n, isDigit c = true := fun c hc =>
    Nat.isDigit_of_mem_toDigits (by decide) (by decide) hc
  have hstop : rest.takeWhile isDigit = [] ∧ rest.dropWhile isDigit = rest := by
    cases rest with
    | nil => exact ⟨rfl, rfl⟩
    | cons c rest => obtain rfl | rfl | rfl := hrest c rfl <;> exact ⟨rfl, rfl⟩
  rw [readDigits?, List.takeWhile_append_of_pos hdigits, List.dropWhile_append_of_pos hdigits,
    hstop.1, hstop.2, List.append_nil]
  split
  · rename_i hnone
    exact absurd hnone Nat.toDigits_ne_nil
  · rfl

theorem readFraction_of_ends : readFraction rest = some ([], rest) := by
  cases rest with
  | nil => rfl
  | cons c rest => obtain rfl | rfl | rfl := hrest c rfl <;> rfl

theorem readExponent_of_ends : readExponent rest = some ([], rest) := by
  cases rest with
  | nil => rfl
  | cons c rest => obtain rfl | rfl | rfl := hrest c rfl <;> rfl

/-- A natural number is read back from its digits. -/
theorem readUnsigned_toDigits (n : Nat) :
    readUnsigned false (Nat.toDigits 10 n ++ rest) = some (ofNat n, rest) := by
  have hzero : ¬ ((Nat.toDigits 10 n).head? = some '0' ∧ (Nat.toDigits 10 n).length ≠ 1) := by
    rintro ⟨hhead, hlength⟩
    by_cases hn : n = 0
    · subst hn
      exact hlength rfl
    · exact head?_toDigits hn hhead
  simp only [readUnsigned, readDigits?_toDigits hrest, if_neg hzero, readFraction_of_ends hrest,
    readExponent_of_ends hrest, ofDigits_toDigits, List.append_nil]
  rfl

end Numbers

/-! ### Values -/

/-- The values that records are made of: natural numbers, strings with Unicode text, and lists and
records of such values. -/
inductive IsPlain : Json → Prop where
  | null : IsPlain .null
  | bool (value : Bool) : IsPlain (.bool value)
  | ofNat (n : Nat) : IsPlain (.ofNat n)
  | string (value : String) : IsPlain (.string value)
  | array {items : List Json} (hitems : ∀ item ∈ items, IsPlain item) : IsPlain (.array items)
  | record {members : List (String × Json)} (hmembers : ∀ m ∈ members, IsPlain m.2) :
      IsPlain (.record members)

/-- The value is read back from its text, whatever stands behind it, if there is fuel for the
text. -/
def ReadsBack (value : Json) : Prop :=
  ∀ fuel rest, (write value).length < fuel → Ends rest →
    readValue fuel (write value ++ rest) = some (value, rest)

/-- The text of a plain value begins with a character that is neither blank nor a bracket that
closes. -/
theorem IsPlain.exists_write_eq {value : Json} (h : value.IsPlain) :
    ∃ c rest, write value = c :: rest ∧ isBlank c = false ∧ c ≠ ']' := by
  cases h with
  | null => exact ⟨_, _, rfl, by decide, by decide⟩
  | bool value => cases value <;> exact ⟨_, _, rfl, by decide, by decide⟩
  | ofNat n =>
    cases hdigits : Nat.toDigits 10 n with
    | nil => exact absurd hdigits Nat.toDigits_ne_nil
    | cons c rest =>
      have hc : c.isDigit = true :=
        Nat.isDigit_of_mem_toDigits (b := 10) (n := n) (by decide) (by decide)
          (hdigits ▸ List.mem_cons_self)
      refine ⟨c, rest, ?_, ?_, ?_⟩
      · simp [write, Json.ofNat, writeNumber, hdigits]
      · simp only [isBlank, Bool.or_eq_false_iff, beq_eq_false_iff_ne]
        refine ⟨⟨⟨?_, ?_⟩, ?_⟩, ?_⟩
        iterate 4
          rintro rfl
          cases hc
      · rintro rfl
        cases hc
  | string value => exact ⟨_, _, rfl, by decide, by decide⟩
  | array hitems => exact ⟨_, _, rfl, by decide, by decide⟩
  | record hmembers => exact ⟨_, _, rfl, by decide, by decide⟩

theorem skipBlanks_cons {c : Char} (rest : List Char) (h : isBlank c = false) :
    skipBlanks (c :: rest) = c :: rest :=
  List.dropWhile_cons_of_neg (by rw [h]; decide)

/-- A string with its quotes is read back. -/
theorem readChars_writeText (text : String) (rest : List Char) :
    ∃ behind, writeText text ++ rest = '"' :: behind ∧
      readChars behind = some (text.toList.map some, rest) := by
  refine ⟨text.toList.flatMap escapeChar ++ '"' :: rest, ?_, readChars_flatMap _ _⟩
  simp [writeText]

/-! ### Lists and records -/

section Readers

variable {fuel : Nat} {text rest behind : List Char} {value : Json}

theorem readItems_last (hvalue : readValue fuel text = some (value, ']' :: rest)) :
    readItems (fuel + 1) text = some ([value], rest) := by
  rw [readItems, hvalue]
  rfl

theorem readItems_more {items : List Json}
    (hvalue : readValue fuel text = some (value, ',' :: behind))
    (hrest : readItems fuel behind = some (items, rest)) :
    readItems (fuel + 1) text = some (value :: items, rest) := by
  rw [readItems, hvalue]
  change (readItems fuel behind).map _ = _
  rw [hrest]
  rfl

theorem readMembers_last (key : String)
    (hvalue : readValue fuel text = some (value, '\x7d' :: rest)) :
    readMembers (fuel + 1) (writeText key ++ ':' :: text) = some ([(some key, value)], rest) := by
  obtain ⟨behind, htext, hkey⟩ := readChars_writeText key (':' :: text)
  rw [htext, readMembers, skipBlanks_cons behind (by decide)]
  simp only [hkey, skipBlanks_cons text (show isBlank ':' = false by decide), hvalue,
    allChars?_map_some]
  rfl

theorem readMembers_more {members : List (Option String × Json)} (key : String)
    (hvalue : readValue fuel text = some (value, ',' :: behind))
    (hrest : readMembers fuel behind = some (members, rest)) :
    readMembers (fuel + 1) (writeText key ++ ':' :: text) =
      some ((some key, value) :: members, rest) := by
  obtain ⟨_, htext, hkey⟩ := readChars_writeText key (':' :: text)
  rw [htext, readMembers, skipBlanks_cons _ (by decide)]
  simp only [hkey, skipBlanks_cons text (show isBlank ':' = false by decide), hvalue,
    allChars?_map_some]
  change (readMembers fuel behind).map _ = _
  rw [hrest]
  rfl

theorem readValue_array {c : Char} (hblank : isBlank c = false) (hclose : c ≠ ']') :
    readValue (fuel + 1) ('[' :: c :: text) =
      (readItems fuel (c :: text)).map fun found => (.array found.1, found.2) := by
  rw [readValue, skipBlanks_cons _ (by decide)]
  simp only [skipBlanks_cons text hblank]
  split
  · rename_i heq
    exact absurd (List.cons.inj heq).1 hclose
  · rfl

theorem readValue_object {c : Char} (hblank : isBlank c = false) (hclose : c ≠ '\x7d') :
    readValue (fuel + 1) ('\x7b' :: c :: text) =
      (readMembers fuel (c :: text)).map fun found => (.object found.1, found.2) := by
  rw [readValue, skipBlanks_cons _ (by decide)]
  simp only [skipBlanks_cons text hblank]
  split
  · rename_i heq
    exact absurd (List.cons.inj heq).1 hclose
  · rfl

/-- A digit begins a number. -/
theorem readValue_digit {c : Char} (hdigit : c.isDigit = true) :
    readValue (fuel + 1) (c :: text) = readUnsigned false (c :: text) := by
  have hne : ∀ d : Char, d.isDigit = false → c ≠ d := by
    rintro d hd rfl
    rw [hdigit] at hd
    cases hd
  have hblank : isBlank c = false := by
    simp [isBlank, hne]
  rw [readValue, skipBlanks_cons text hblank]
  split
  iterate 7
    rename_i heq
    exact absurd (List.cons.inj heq).1 (hne _ (by decide))
  rfl

end Readers

/-- The items of an array are read back, if there are some and each of them is. -/
theorem readItems_writeItems {items : List Json} (hne : items ≠ [])
    (hitems : ∀ item ∈ items, item.ReadsBack) (fuel : Nat) (rest : List Char)
    (hfuel : (writeItems items).length + 1 < fuel) :
    readItems fuel (writeItems items ++ ']' :: rest) = some (items, rest) := by
  induction items generalizing fuel with
  | nil => exact absurd rfl hne
  | cons item items ih =>
    obtain ⟨fuel, rfl⟩ : ∃ k, fuel = k + 1 := ⟨fuel - 1, by omega⟩
    have hitem := hitems item List.mem_cons_self fuel
    cases items with
    | nil =>
      rw [writeItems] at hfuel ⊢
      exact readItems_last (hitem _ (by omega) (by simp [Ends]))
    | cons next items =>
      have hwrite : writeItems (item :: next :: items) =
          write item ++ ',' :: writeItems (next :: items) := rfl
      rw [hwrite, List.length_append, List.length_cons] at hfuel
      rw [hwrite, List.append_assoc, List.cons_append]
      have hrest := ih (List.cons_ne_nil _ _)
        (fun item h => hitems item (List.mem_cons_of_mem _ h)) fuel (by omega)
      exact readItems_more (hitem _ (by omega) (by simp [Ends])) hrest

/-- The members of a record as an object has them. -/
def keyed (members : List (String × Json)) : List (Option String × Json) :=
  members.map fun m => (some m.1, m.2)

/-- The members of a record are read back, if there are some and each value is. -/
theorem readMembers_writeMembers {members : List (String × Json)} (hne : members ≠ [])
    (hmembers : ∀ m ∈ members, m.2.ReadsBack) (fuel : Nat) (rest : List Char)
    (hfuel : (writeMembers (keyed members)).length + 1 < fuel) :
    readMembers fuel (writeMembers (keyed members) ++ '\x7d' :: rest) =
      some (keyed members, rest) := by
  induction members generalizing fuel with
  | nil => exact absurd rfl hne
  | cons m members ih =>
    obtain ⟨key, value⟩ := m
    obtain ⟨fuel, rfl⟩ : ∃ k, fuel = k + 1 := ⟨fuel - 1, by omega⟩
    have hvalue : value.ReadsBack := hmembers (key, value) List.mem_cons_self
    cases members with
    | nil =>
      simp only [keyed, List.map_cons, List.map_nil, writeMembers, writeKey, Option.getD_some,
        List.length_append, List.length_cons, List.append_assoc, List.cons_append] at hfuel ⊢
      exact readMembers_last key (hvalue fuel _ (by omega) (by simp [Ends]))
    | cons next members =>
      have hrest := ih (List.cons_ne_nil _ _)
        (fun m h => hmembers m (List.mem_cons_of_mem _ h)) fuel
      simp only [keyed, List.map_cons, writeMembers, writeKey, Option.getD_some,
        List.length_append, List.length_cons, List.append_assoc, List.cons_append] at hfuel hrest ⊢
      exact readMembers_more key (hvalue fuel _ (by omega) (by simp [Ends])) (hrest (by omega))

/-! ### Whole texts -/

/-- A reader with fuel for the text has some left for the inside of the value. -/
theorem readsBack_of_succ {value : Json}
    (h : ∀ fuel rest, (write value).length ≤ fuel → Ends rest →
      readValue (fuel + 1) (write value ++ rest) = some (value, rest)) : value.ReadsBack := by
  intro fuel rest hfuel hrest
  cases fuel with
  | zero => exact absurd hfuel (Nat.not_lt_zero _)
  | succ fuel => exact h fuel rest (Nat.lt_succ_iff.mp hfuel) hrest

theorem readsBack_ofNat (n : Nat) : (Json.ofNat n).ReadsBack := by
  refine readsBack_of_succ fun fuel rest _ hrest => ?_
  have hwrite : write (Json.ofNat n) = Nat.toDigits 10 n := by
    simp [write, Json.ofNat, writeNumber]
  have hread := readUnsigned_toDigits hrest n
  rw [hwrite]
  cases hdigits : Nat.toDigits 10 n with
  | nil => exact absurd hdigits Nat.toDigits_ne_nil
  | cons c digits =>
    have hdigit : c.isDigit = true :=
      Nat.isDigit_of_mem_toDigits (by decide) (by decide) (hdigits ▸ List.mem_cons_self)
    rw [hdigits] at hread
    exact (readValue_digit hdigit).trans hread

theorem readsBack_string (text : String) : (Json.string text).ReadsBack := by
  refine readsBack_of_succ fun fuel rest _ _ => ?_
  obtain ⟨behind, htext, hread⟩ := readChars_writeText text rest
  rw [write, htext, readValue, skipBlanks_cons _ (by decide)]
  simp only [hread, Option.map_some, allChars?_map_some]

theorem readsBack_array {items : List Json} (hplain : ∀ item ∈ items, item.IsPlain)
    (hitems : ∀ item ∈ items, item.ReadsBack) : (Json.array items).ReadsBack := by
  refine readsBack_of_succ fun fuel rest hfuel _ => ?_
  rw [write, List.length_append, List.length_cons, List.length_singleton] at hfuel
  rw [write, List.append_assoc, List.cons_append, List.singleton_append]
  cases items with
  | nil => rfl
  | cons item items =>
    have hread := readItems_writeItems (List.cons_ne_nil item items) hitems fuel rest (by omega)
    obtain ⟨c, more, hfirst, hblank, hclose⟩ := (hplain item List.mem_cons_self).exists_write_eq
    obtain ⟨behind, hwrite⟩ : ∃ behind, writeItems (item :: items) = c :: behind := by
      cases items with
      | nil => exact ⟨more, hfirst⟩
      | cons next items =>
        refine ⟨more ++ ',' :: writeItems (next :: items), ?_⟩
        change write item ++ ',' :: writeItems (next :: items) = _
        rw [hfirst, List.cons_append]
    rw [hwrite] at hread ⊢
    rw [List.cons_append] at hread ⊢
    rw [readValue_array hblank hclose, hread]
    rfl

theorem readsBack_record {members : List (String × Json)}
    (hmembers : ∀ m ∈ members, m.2.ReadsBack) : (Json.record members).ReadsBack := by
  refine readsBack_of_succ fun fuel rest hfuel _ => ?_
  have hwrite : write (Json.record members) = '\x7b' :: writeMembers (keyed members) ++ ['\x7d'] :=
    rfl
  rw [hwrite, List.length_append, List.length_cons, List.length_singleton] at hfuel
  rw [hwrite, List.append_assoc, List.cons_append, List.singleton_append]
  cases members with
  | nil => rfl
  | cons m members =>
    have hread := readMembers_writeMembers (List.cons_ne_nil m members) hmembers fuel rest
      (by omega)
    obtain ⟨behind, hfirst⟩ : ∃ behind, writeMembers (keyed (m :: members)) = '"' :: behind := by
      cases members <;> exact ⟨_, rfl⟩
    rw [hfirst, List.cons_append] at hread ⊢
    rw [readValue_object (by decide) (by decide), hread]
    rfl

/-- **Plain values are read back** from their text, whatever stands behind it. -/
theorem IsPlain.readsBack {value : Json} (h : value.IsPlain) : value.ReadsBack := by
  induction h with
  | null =>
    refine readsBack_of_succ fun fuel rest _ _ => ?_
    change readValue (fuel + 1) ('n' :: 'u' :: 'l' :: 'l' :: rest) = _
    rw [readValue, skipBlanks_cons _ (by decide)]
    rfl
  | bool value =>
    refine readsBack_of_succ fun fuel rest _ _ => ?_
    cases value with
    | false =>
      change readValue (fuel + 1) ('f' :: 'a' :: 'l' :: 's' :: 'e' :: rest) = _
      rw [readValue, skipBlanks_cons _ (by decide)]
      rfl
    | true =>
      change readValue (fuel + 1) ('t' :: 'r' :: 'u' :: 'e' :: rest) = _
      rw [readValue, skipBlanks_cons _ (by decide)]
      rfl
  | ofNat n => exact readsBack_ofNat n
  | string value => exact readsBack_string value
  | array hitems ih => exact readsBack_array hitems ih
  | record hmembers ih => exact readsBack_record ih

/-- A plain value is read back from its text. -/
theorem IsPlain.parse?_render {value : Json} (h : value.IsPlain) :
    parse? value.render = some value := by
  have hread := h.readsBack ((write value).length + 1) [] (Nat.lt_succ_self _) nofun
  rw [List.append_nil] at hread
  simp only [parse?, render, String.toList_ofList, hread]
  rfl

end VaultWatch.Json
