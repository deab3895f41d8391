import LinkDigest.Filter.Keyword
import LinkDigest.Pattern.Match

/-!
# Keywords as a pattern

All keywords of a list written as one pattern: what they are made of with its signs taken
literally, a run of any characters for each star, and one keyword or another.
-/

namespace LinkDigest

open LinkDigest.Text

namespace Pattern

/-- How patterns are read whose letters are of either case. -/
def Flags.caseless : Flags := { Flags.none with ignoreCase := true }

/-- Before the first sign of such a pattern. -/
def Reader.caseless (text : List Char) : Reader := { Reader.new text with flags := .caseless }

/-- A text as a pattern for nothing but this text. -/
def escape (text : List Char) : List Char :=
  text.flatMap fun c => if isMeta c then ['\\', c] else [c]

end Pattern

/-- The matcher of a written pattern whose letters are of either case. How large it may be
is for the caller to say. -/
def Matcher.ofCaseless? (text : List Char) : Option Matcher := do
  let r ← (Pattern.Reader.caseless text).run? (text.length + 1)
  let (pattern, depth) := r.finished
  if r.stack.isEmpty ∧ depth ≤ Pattern.maxDepth then some ⟨.ofPattern pattern, r.names⟩
  else none

namespace Keyword

/-- The pattern of a written keyword. -/
def expression (keyword : List Char) : List Char :=
  ['.', '*'].intercalate ((fields (· == '*') keyword).map Pattern.escape)

/-- The pattern of all written keywords. -/
def expressions (keywords : List (List Char)) : List Char :=
  ['|'].intercalate (keywords.map expression)

/-- The matcher of the keywords of a list. -/
def matcher? (text : List Char) : Option Matcher :=
  Matcher.ofCaseless? (expressions (written text))

end Keyword

end LinkDigest
