/-!
# Letter case of ASCII text

Addresses and transaction hashes are compared without regard to the case of ASCII letters.
All other characters count as written.
-/

namespace VaultWatch.Ascii

/-- The text with every ASCII capital made small. -/
def fold (text : String) : String :=
  String.ofList (text.toList.map Char.toLower)

/-- Two texts agree up to the case of ASCII letters. -/
def sameFold (a b : String) : Bool :=
  fold a == fold b

end VaultWatch.Ascii
