import LinkDigest.Text.Fields
import LinkDigest.Text.Hex

/-!
# Identifiers

What tells feeds and articles apart: an identifier of 128 bits where the
document writes one, and otherwise the place it stands at, which is like no
other identifier.
-/

namespace LinkDigest

/-- An identifier of 128 bits. -/
structure Uuid where
  value : BitVec 128
deriving DecidableEq, Repr

namespace Uuid

/-- The lengths of the groups of digits in the written form. -/
def groups : List Nat := [8, 4, 4, 4, 12]

/-- The identifier that 32 digits write. -/
def ofDigits? (digits : List Char) : Option Uuid :=
  if digits.length = 32 then (Hex.number? digits).map fun n => ⟨BitVec.ofNat 128 n⟩
  else none

/-- The identifier that groups of digits with hyphens between them write. -/
def ofGroups? (text : List Char) : Option Uuid :=
  let parts := Text.fields (· == '-') text
  if parts.map List.length = groups then ofDigits? parts.flatten else none

/-- The mark of an identifier among names of resources. -/
def urnMark : List Char := "urn:uuid:".toList

/-- The identifier a text writes: 32 digits, or groups with hyphens, which may
stand in braces or behind the mark of a resource name. -/
def parse? (text : List Char) : Option Uuid :=
  if text.length = 32 then ofDigits? text
  else if text.length = 36 then ofGroups? text
  else if text.length = 38 then
    if text.head? = some '\x7b' ∧ text.getLast? = some '\x7d' then
      ofGroups? (text.drop 1).dropLast
    else none
  else if text.length = 45 then
    if (text.take 9).map Char.toLower = urnMark then ofGroups? (text.drop 9) else none
  else none

/-- The last `count` digits of a number. -/
def lastDigits (count : Nat) (n : Nat) : List Char :=
  match count with
  | 0 => []
  | count + 1 => lastDigits count (n / 16) ++ [Hex.digit (n % 16)]

/-- Digits in groups, with hyphens between them. -/
def hyphenated : List Nat → List Char → List Char
  | [], _ => []
  | [size], digits => digits.take size
  | size :: rest, digits => digits.take size ++ '-' :: hyphenated rest (digits.drop size)

/-- The written form: groups of small digits with hyphens. -/
def render (id : Uuid) : List Char := hyphenated groups (lastDigits 32 id.value.toNat)

example : (parse? "\x7b00000000-0000-4000-8000-00000000000A\x7d".toList).map render =
    some "00000000-0000-4000-8000-00000000000a".toList := by decide

end Uuid

/-- What tells feeds and articles apart. -/
inductive Ident where
  /-- Written in a document. -/
  | written (uuid : Uuid)
  /-- Given out for what has no written identifier; each place once. -/
  | issued (place : List Nat)
deriving DecidableEq, Repr

end LinkDigest
