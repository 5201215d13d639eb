import VaultWatch.Text.Hex

/-!
# Byte fields and their spellings

Which texts are byte fields, and which of them mean the same. A text of digits is read exactly if
there is an even number of them (`Hex.isSome_ofDigits?_iff`), and the bytes that it is read as are
written with these digits made small (`Hex.digits_of_ofDigits?`). So a byte string is written in one
way, and all other fields that are read as this byte string differ from it in letter case or go
without the mark. The main statement is `Hex.spellings_agree`.
-/

namespace VaultWatch.Hex

/-! ### Digits -/

/-- The hexadecimal digits of either case. -/
def alphabet : List Char :=
  ['0', '1', '2', '3', '4', '5', '6', '7', '8', '9', 'a', 'b', 'c', 'd', 'e', 'f',
    'A', 'B', 'C', 'D', 'E', 'F']

/-- Only ASCII characters count as digits. -/
theorem toNat_lt_of_isSome_digit? {c : Char} (h : (digit? c).isSome = true) : c.toNat < 128 := by
  have hle {a b : Char} (hab : a ≤ b) : a.toNat ≤ b.toNat := hab
  unfold digit? at h
  split at h
  · next hdecimal => exact Nat.lt_of_le_of_lt (hle hdecimal.2) (by decide)
  · split at h
    · next hsmall => exact Nat.lt_of_le_of_lt (hle hsmall.2) (by decide)
    · split at h
      · next hcapital => exact Nat.lt_of_le_of_lt (hle hcapital.2) (by decide)
      · cases h

theorem isSome_digit?_iff {c : Char} : (digit? c).isSome = true ↔ c ∈ alphabet := by
  constructor
  · intro h
    -- All digits are ASCII, so that a look through the table of ASCII finds them all.
    have hall : ∀ n < 128, (digit? (Char.ofNat n)).isSome = true → Char.ofNat n ∈ alphabet := by
      decide
    have hc := hall c.toNat (toNat_lt_of_isSome_digit? h)
    rw [Char.ofNat_toNat] at hc
    exact hc h
  · have hall : alphabet.all (fun c => (digit? c).isSome) = true := by decide
    exact List.all_eq_true.mp hall c

/-- The value of a digit is written as this digit made small. -/
theorem digitChar_of_digit? {c : Char} {d : Nat} (h : digit? c = some d) :
    d < 16 ∧ Nat.digitChar d = c.toLower := by
  have hall : ∀ n < 128, ∀ d ∈ digit? (Char.ofNat n),
      d < 16 ∧ Nat.digitChar d = (Char.ofNat n).toLower := by decide
  have hc := hall c.toNat (toNat_lt_of_isSome_digit? (by rw [h]; rfl))
  rw [Char.ofNat_toNat] at hc
  exact hc d h

/-- The two digits of a byte that was put together of two halves. -/
theorem byteDigits_ofNat {high low : Nat} (hhigh : high < 16) (hlow : low < 16) :
    byteDigits (UInt8.ofNat (16 * high + low)) = [Nat.digitChar high, Nat.digitChar low] := by
  have hbyte : (UInt8.ofNat (16 * high + low)).toNat = 16 * high + low :=
    UInt8.toNat_ofNat_of_lt (by rw [UInt8.size]; omega)
  have hdiv : (16 * high + low) / 16 = high := by omega
  have hmod : (16 * high + low) % 16 = low := by omega
  rw [byteDigits, hbyte, hdiv, hmod]

/-! ### Texts of digits -/

/-- Two characters and what follows are read exactly if all three are. -/
theorem isSome_ofDigits?_cons_cons {hi lo : Char} {rest : List Char} :
    (ofDigits? (hi :: lo :: rest)).isSome = true ↔
      (digit? hi).isSome = true ∧ (digit? lo).isSome = true ∧ (ofDigits? rest).isSome = true := by
  rw [ofDigits?]
  cases digit? hi <;> cases digit? lo <;> cases ofDigits? rest <;> simp

/-- **What is read**: an even number of digits, and nothing else. -/
theorem isSome_ofDigits?_iff : ∀ {text : List Char},
    (ofDigits? text).isSome = true ↔ 2 ∣ text.length ∧ ∀ c ∈ text, c ∈ alphabet
  | [] => by simp [ofDigits?]
  | [c] => by simp [ofDigits?]
  | hi :: lo :: rest => by
    have hlength : 2 ∣ (hi :: lo :: rest).length ↔ 2 ∣ rest.length := by
      rw [List.length_cons, List.length_cons]
      omega
    rw [isSome_ofDigits?_cons_cons, isSome_digit?_iff, isSome_digit?_iff, isSome_ofDigits?_iff,
      hlength, List.forall_mem_cons, List.forall_mem_cons]
    constructor
    · rintro ⟨hhi, hlo, heven, hrest⟩
      exact ⟨heven, hhi, hlo, hrest⟩
    · rintro ⟨heven, hhi, hlo, hrest⟩
      exact ⟨hhi, hlo, heven, hrest⟩

/-- **What is written** for the bytes of a text are its digits made small. -/
theorem digits_of_ofDigits? {text : List Char} {bytes : Bytes} (h : ofDigits? text = some bytes) :
    digits bytes = text.map Char.toLower := by
  -- The reader takes two digits at a time, and so does the induction.
  fun_induction ofDigits? text generalizing bytes with
  | case1 =>
    cases h
    rfl
  | case2 c => cases h
  | case3 hi lo rest high low tail htail hlow hhigh ih =>
    cases h
    obtain ⟨hhigh16, hhi⟩ := digitChar_of_digit? hhigh
    obtain ⟨hlow16, hlo⟩ := digitChar_of_digit? hlow
    calc digits (UInt8.ofNat (16 * high + low) :: tail)
        = byteDigits (UInt8.ofNat (16 * high + low)) ++ digits tail := List.flatMap_cons
      _ = [hi.toLower, lo.toLower] ++ rest.map Char.toLower := by
        rw [byteDigits_ofNat hhigh16 hlow16, hhi, hlo, ih htail]
  | case4 => cases h

/-- Two texts have the same bytes exactly if they agree up to letter case. -/
theorem eq_iff_of_ofDigits? {text text' : List Char} {bytes bytes' : Bytes}
    (h : ofDigits? text = some bytes) (h' : ofDigits? text' = some bytes') :
    bytes = bytes' ↔ text.map Char.toLower = text'.map Char.toLower := by
  rw [← digits_of_ofDigits? h, ← digits_of_ofDigits? h']
  -- Bytes are read back from their digits, so that the digits tell which bytes they are.
  refine ⟨congrArg digits, fun hdigits => Option.some.inj ?_⟩
  rw [← ofDigits?_digits bytes, hdigits, ofDigits?_digits]

/-! ### Fields -/

/-- What stands behind the mark of a field, if it has one. -/
def unmarked (text : String) : List Char :=
  if ['0', 'x'].isPrefixOf text.toList then text.toList.drop 2 else text.toList

theorem stripMark_toList (text : String) : stripMark text.toList = unmarked text := by
  unfold unmarked stripMark
  split
  · next rest htext => simp [htext]
  · next hnone =>
    rw [if_neg]
    intro hmark
    obtain ⟨rest, hrest⟩ := List.isPrefixOf_iff_prefix.mp hmark
    exact hnone rest hrest.symm

theorem ofField?_eq (text : String) : ofField? text = ofDigits? (unmarked text) := by
  rw [ofField?, stripMark_toList]

/-- **Byte fields and their spellings.** A text is read as a byte field exactly if what stands
behind its mark, of which it may have one, is an even number of hexadecimal digits; the bytes that
it is read as are written as the mark and these digits made small; every byte string is read back
from what is written for it; and two fields are read as the same bytes exactly if they agree up to
the mark and letter case. -/
theorem spellings_agree :
    (∀ text, (ofField? text).isSome = true ↔
      2 ∣ (unmarked text).length ∧ ∀ c ∈ unmarked text, c ∈ alphabet) ∧
    (∀ text bytes, ofField? text = some bytes →
      field bytes = "0x" ++ String.ofList ((unmarked text).map Char.toLower)) ∧
    (∀ bytes, ofField? (field bytes) = some bytes) ∧
    ∀ text text' bytes bytes', ofField? text = some bytes → ofField? text' = some bytes' →
      (bytes = bytes' ↔
        (unmarked text).map Char.toLower = (unmarked text').map Char.toLower) := by
  refine ⟨fun text => ?_, fun text bytes h => ?_, ofField?_field, fun text text' _ _ h h' => ?_⟩
  · rw [ofField?_eq, isSome_ofDigits?_iff]
  · rw [ofField?_eq] at h
    rw [field, digits_of_ofDigits? h]
    exact String.toList_inj.mp (by simp)
  · rw [ofField?_eq] at h h'
    exact eq_iff_of_ofDigits? h h'

/-- Capitals without a mark are read, and are written small behind the mark. -/
theorem field_of_capitals :
    ofField? "DEAD" = some [0xDE, 0xAD] ∧ field [0xDE, 0xAD] = "0xdead" := by
  have hread : ofField? "DEAD" = some [0xDE, 0xAD] := by decide
  have hsmall : (unmarked "DEAD").map Char.toLower = ['d', 'e', 'a', 'd'] := by decide
  have hwritten := spellings_agree.2.1 _ _ hread
  rw [hsmall] at hwritten
  exact ⟨hread, hwritten⟩

/-- A mark may stand alone, but not twice, and not as a capital. -/
example : ofField? "0x" = some [] ∧ ofField? "0x0xab" = none ∧ ofField? "0Xab" = none := by decide

end VaultWatch.Hex
