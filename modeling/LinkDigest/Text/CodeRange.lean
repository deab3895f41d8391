import LinkDigest.Text.Fields
import LinkDigest.Text.Hex

/-!
# Code point ranges

A set of characters as a list of ranges of code points, and the compact form
its tables are written in: ranges apart by blanks or line ends, each one code
point or two joined by a hyphen, in hexadecimal.
-/

namespace LinkDigest.Text

/-- The code points from `first` to `last`, both included. -/
structure CodeRange where
  first : Nat
  last : Nat
deriving DecidableEq, Repr

namespace CodeRange

/-- Whether a code point lies in the range. -/
def contains (r : CodeRange) (code : Nat) : Bool :=
  r.first ≤ code && code ≤ r.last

/-- One written range. -/
def ofField (field : List Char) : Option CodeRange :=
  match (fields (· == '-') field).map Hex.number? with
  | [some a] => some ⟨a, a⟩
  | [some a, some b] => some ⟨a, b⟩
  | _ => none

/-- The ranges a table writes. -/
def table (text : String) : List CodeRange :=
  ((fields (fun c => c == ' ' || c == '\n') text.toList).filter (!·.isEmpty)).filterMap ofField

example : table "41-5A AA" = [⟨0x41, 0x5A⟩, ⟨0xAA, 0xAA⟩] := by decide

end CodeRange

/-- Whether one of the ranges holds the character. -/
def inRanges (ranges : List CodeRange) (c : Char) : Bool :=
  ranges.any (·.contains c.toNat)

end LinkDigest.Text
