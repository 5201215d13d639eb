import VaultWatch.Domain.Composed
import VaultWatch.Domain.Direction
import VaultWatch.Domain.Folded
import VaultWatch.Domain.Joiner
import VaultWatch.Domain.Punycode
import VaultWatch.Text.Search

/-!
# Domain names

A domain name is a row of labels with dots between them. A text stands for a domain name if, brought
into its plain and composed form, each of its labels is one. Labels of other scripts may be spelled
in ASCII, behind a mark. A label may be empty.
-/

namespace VaultWatch.Domain

/-- A character of ASCII. -/
def isAscii (c : Char) : Bool :=
  c.toNat < 0x80

/-- A character of ASCII that no label may hold. -/
def isForbidden (c : Char) : Bool :=
  c < ' ' || c == '\x7f' || " #%/:<>?@[\\]^|".toList.contains c

/-- The longest label beyond ASCII. -/
def maxLabel : Nat := 1000

/-- The longest spelling in ASCII. -/
def maxSpelling : Nat := 2000

/-- The label of another script that a spelling in ASCII stands for. It must have a character beyond
ASCII, and it must be in its plain and composed form already. -/
def spelledLabel? (spelling : List Char) : Option (List Char) :=
  if spelling.all isAscii ∧ spelling.length ≤ maxSpelling then
    (Punycode.decode? spelling).filter fun label =>
      !label.all isAscii && label.all isPlain && composed label == label
  else none

/-- The label that a part of a plain text is. -/
def label? : List Char → Option (List Char)
  | 'x' :: 'n' :: '-' :: '-' :: spelling => spelledLabel? spelling
  | label => some label

/-- A label holds only what it may, and starts with no mark. -/
def isLabel (label : List Char) : Bool :=
  label.all (!isForbidden ·) && (label.all isAscii || label.length ≤ maxLabel)
    && !label.head?.any isMark && joinersFit [] label

/-- The domain name for which a text stands, in its plain form. -/
def ofText? (text : List Char) : Option (List Char) := do
  let forms ← text.mapM plain?
  let labels ← (Search.split '.' (composed forms.flatten)).mapM label?
  if labels.all isLabel ∧ directionsFit labels then return ['.'].intercalate labels else none

end VaultWatch.Domain
