import LinkDigest.Pattern.CharSet

/-!
# Patterns

What a text is matched against. Of several ways to match, the one whose
choices come first counts.
-/

namespace LinkDigest

/-- A condition on a place between characters. -/
inductive Assertion where
  | textStart
  | textEnd
  | lineStart
  | lineEnd
  | wordBoundary
  | noWordBoundary
  | wordStart
  | wordEnd
  /-- No character of a word before. -/
  | wordStartHalf
  /-- No character of a word behind. -/
  | wordEndHalf
deriving DecidableEq, Repr

/-- A pattern. -/
inductive Pattern where
  | empty
  | set (chars : CharSet)
  | assertion (condition : Assertion)
  /-- What `inner` matches is kept under a number. -/
  | group (index : Nat) (inner : Pattern)
  | sequence (first second : Pattern)
  | choice (first second : Pattern)
  /-- From `least` to `most` times, as often as possible if `greedy`. -/
  | repetition (inner : Pattern) (least : Nat) (most : Option Nat) (greedy : Bool)
deriving DecidableEq, Repr

namespace Pattern

/-- One pattern behind the other. -/
def sequenceAll : List Pattern → Pattern
  | [] => .empty
  | [one] => one
  | one :: rest => .sequence one (sequenceAll rest)

/-- One of several patterns, an earlier one rather than a later one. -/
def choiceAll : List Pattern → Pattern
  | [] => .empty
  | [one] => one
  | one :: rest => .choice one (choiceAll rest)

/-- Whether the pattern may match without any character. -/
def isNullable : Pattern → Bool
  | .empty => true
  | .set _ => false
  | .assertion _ => true
  | .group _ inner => inner.isNullable
  | .sequence a b => a.isNullable && b.isNullable
  | .choice a b => a.isNullable || b.isNullable
  | .repetition inner least _ _ => least == 0 || inner.isNullable

/-- Whether the pattern never matches a character. -/
def isZeroWidth : Pattern → Bool
  | .empty => true
  | .set _ => false
  | .assertion _ => true
  | .group _ inner => inner.isZeroWidth
  | .sequence a b => a.isZeroWidth && b.isZeroWidth
  | .choice a b => a.isZeroWidth && b.isZeroWidth
  | .repetition inner _ most _ => most == some 0 || inner.isZeroWidth

/-- A repetition in its plainest form: what has no width need not be repeated
more than once, no repetition is nothing, and one is the pattern itself. -/
def repeated (inner : Pattern) (least : Nat) (most : Option Nat) (greedy : Bool) : Pattern :=
  let least := if inner.isZeroWidth then min least 1 else least
  let most := if inner.isZeroWidth then some (min (most.getD 1) 1) else most
  if most = some 0 then .empty
  else if least = 1 ∧ most = some 1 then inner
  else .repetition inner least most greedy

/-! ## Size -/

/-- How much a range counts. -/
def rangeSize (r : Text.CodeRange) : Nat := if r.last < 0x80 then 8 else 90

/-- How much a set counts. -/
def setSize (s : CharSet) : Nat := s.ranges.foldl (fun sum r => sum + rangeSize r) 32

/-- How much the pattern counts, all repetitions written out. -/
def size : Pattern → Nat
  | .empty => 32
  | .set chars => setSize chars
  | .assertion _ => 32
  | .group _ inner => inner.size + 64
  | .sequence a b => a.size + b.size
  | .choice a b => a.size + b.size + 48
  | .repetition inner least most _ => (inner.size + 48) * max 1 (most.getD least) + 48

/-- The greatest size of a pattern. -/
def maxSize : Nat := 10 * Nat.pow 2 20

end Pattern

end LinkDigest
