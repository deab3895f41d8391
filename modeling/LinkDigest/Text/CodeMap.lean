import LinkDigest.Text.CodeRange

/-!
# Tables of characters and what stands for them

What stands for the characters of a table, and the compact form such tables are written in:
entries apart by blanks or line ends, each a range, a colon, and code points joined by plus
signs. The one code point of a range moves on with it.
-/

namespace LinkDigest.Text

/-- Code points and what stands for each of them. -/
structure CodeMapping where
  range : CodeRange
  targets : List Nat
deriving DecidableEq, Repr

namespace CodeMapping

/-- The characters that stand for a code point of the range. -/
def apply (mapping : CodeMapping) (code : Nat) : List Char :=
  match mapping.targets with
  | [first] => [Char.ofNat (first + (code - mapping.range.first))]
  | targets => targets.map Char.ofNat

/-- One written entry. -/
def ofField (field : List Char) : Option CodeMapping :=
  match fields (· == ':') field with
  | [range, targets] => do
    return ⟨← CodeRange.ofField range, ← (fields (· == '+') targets).mapM Hex.number?⟩
  | _ => none

/-- The entries a table writes. -/
def table (text : String) : List CodeMapping :=
  ((fields (fun c => c == ' ' || c == '\n') text.toList).filter (!·.isEmpty)).filterMap ofField

/-- What a table has in place of a character. -/
def find? (mappings : List CodeMapping) (c : Char) : Option (List Char) :=
  (mappings.find? (·.range.contains c.toNat)).map (·.apply c.toNat)

example : find? (table "AA:61 D0-D1:F0 DF:73+73") 'Ñ' = some ['ñ'] := by decide

end CodeMapping

end LinkDigest.Text
