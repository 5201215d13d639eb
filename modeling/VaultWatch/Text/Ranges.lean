/-!
# Sets of characters

Sets of characters as ranges of code points, and classes of characters as ranges with a tag each.
-/

namespace VaultWatch

/-- Ranges of code points, ends included. -/
abbrev Ranges := List (Nat × Nat)

/-- The character lies in one of the ranges. -/
def Ranges.covers (ranges : Ranges) (c : Char) : Bool :=
  ranges.any fun r => r.1 ≤ c.toNat && c.toNat ≤ r.2

/-- Ranges of code points, ends included, with the class of the characters in each. -/
abbrev ClassRanges (Class : Type) := List (Nat × Nat × Class)

/-- The class of a character; none if it lies in no range. -/
def ClassRanges.class? {Class : Type} (ranges : ClassRanges Class) (c : Char) : Option Class :=
  (ranges.find? fun r => r.1 ≤ c.toNat && c.toNat ≤ r.2.1).map (·.2.2)

end VaultWatch
