import LinkDigest.Text.Blank
import LinkDigest.Text.Category
import LinkDigest.Text.Fold

/-!
# Sets of characters

A set as ranges of code points, in order and apart from each other, with the
operations of sets and the closure under change of case.
-/

namespace LinkDigest

open LinkDigest.Text

/-- A set of characters. -/
structure CharSet where
  ranges : List CodeRange
deriving DecidableEq, Repr

namespace CharSet

/-- The greatest code point. -/
def maxCode : Nat := 0x10FFFF

/-- Whether a character is in the set. -/
def contains (s : CharSet) (c : Char) : Bool := inRanges s.ranges c

/-- Whether a code point is in the set. -/
def hasCode (s : CharSet) (code : Nat) : Bool := s.ranges.any (·.contains code)

/-- Ranges in order of their beginnings, joined with `current` where they touch. -/
def joinFrom (current : CodeRange) : List CodeRange → List CodeRange
  | [] => [current]
  | r :: rest =>
    if r.first ≤ current.last + 1 then joinFrom ⟨current.first, max current.last r.last⟩ rest
    else current :: joinFrom r rest

/-- Ranges in order of their beginnings, joined where they touch. -/
def join : List CodeRange → List CodeRange
  | [] => []
  | r :: rest => joinFrom r rest

/-- The set of any ranges. -/
def ofRanges (ranges : List CodeRange) : CharSet :=
  ⟨join (ranges.mergeSort fun a b => a.first ≤ b.first)⟩

/-- No character. -/
def empty : CharSet := ⟨[]⟩

/-- One character. -/
def singleton (c : Char) : CharSet := ⟨[⟨c.toNat, c.toNat⟩]⟩

/-- The characters from `a` to `b`. -/
def between (a b : Char) : CharSet := ⟨[⟨a.toNat, b.toNat⟩]⟩

/-- The characters of either set. -/
def union (a b : CharSet) : CharSet := ofRanges (a.ranges ++ b.ranges)

/-- What lies between ranges in order, from `low` on. -/
def gapsFrom (low : Nat) : List CodeRange → List CodeRange
  | [] => if low ≤ maxCode then [⟨low, maxCode⟩] else []
  | r :: rest =>
    if low < r.first then ⟨low, r.first - 1⟩ :: gapsFrom (r.last + 1) rest
    else gapsFrom (r.last + 1) rest

/-- All other characters. -/
def complement (s : CharSet) : CharSet := ⟨gapsFrom 0 s.ranges⟩

/-- The characters of both sets. -/
def inter (a b : CharSet) : CharSet := complement (union (complement a) (complement b))

/-- The characters of the first set that are not in the second. -/
def diff (a b : CharSet) : CharSet := inter a (complement b)

/-- The characters of one set that are not in the other. -/
def symmDiff (a b : CharSet) : CharSet := diff (union a b) (inter a b)

/-- What the members of a set and their other cases fold to, as far as they
have other cases. -/
def foldTargets (s : CharSet) : List Nat :=
  (foldPairs.filter fun pair => s.hasCode pair.1 || s.hasCode pair.2).map Prod.snd

/-- The set with all cases of its characters. -/
def withCases (s : CharSet) : CharSet :=
  let targets := s.foldTargets.eraseDups
  let others := foldPairs.filter fun pair => targets.contains pair.2
  ofRanges (s.ranges ++ targets.map (fun code => ⟨code, code⟩) ++
    others.map fun pair => ⟨pair.1, pair.1⟩)

/-! ## Common sets -/

/-- Characters of words. -/
def word : CharSet := ofRanges wordRanges

/-- Decimal digits. -/
def digit : CharSet := ofRanges digitRanges

/-- Blanks. -/
def blank : CharSet := ofRanges blankRanges

/-- Every character. -/
def all : CharSet := ⟨[⟨0, maxCode⟩]⟩

/-- Every character but the line feed. -/
def noLineFeed : CharSet := complement (singleton '\n')

/-- The named sets within ASCII. -/
def asciiNames : List (String × String) :=
  [("alnum", "30-39 41-5A 61-7A"), ("alpha", "41-5A 61-7A"), ("ascii", "0-7F"),
   ("blank", "9 20"), ("cntrl", "0-1F 7F"), ("digit", "30-39"), ("graph", "21-7E"),
   ("lower", "61-7A"), ("print", "20-7E"), ("punct", "21-2F 3A-40 5B-60 7B-7E"),
   ("space", "9-D 20"), ("upper", "41-5A"), ("word", "30-39 41-5A 5F 61-7A"),
   ("xdigit", "30-39 41-46 61-66")]

/-- The set of a name within ASCII. -/
def ofAsciiName? (name : List Char) : Option CharSet :=
  (asciiNames.find? fun entry => entry.1.toList == name).map fun entry =>
    ofRanges (CodeRange.table entry.2)

/-! ## Properties -/

/-- The long names of the general categories. -/
def categoryNames : List (String × List Category) :=
  [("letter", Category.letters), ("casedletter", [.upperLetter, .lowerLetter, .titleLetter]),
   ("uppercaseletter", [.upperLetter]), ("lowercaseletter", [.lowerLetter]),
   ("titlecaseletter", [.titleLetter]), ("modifierletter", [.modifierLetter]),
   ("otherletter", [.otherLetter]), ("mark", Category.marks),
   ("combiningmark", Category.marks), ("nonspacingmark", [.nonspacingMark]),
   ("spacingmark", [.spacingMark]), ("enclosingmark", [.enclosingMark]),
   ("number", Category.numbers), ("decimalnumber", [.decimalNumber]),
   ("digit", [.decimalNumber]), ("letternumber", [.letterNumber]),
   ("othernumber", [.otherNumber]), ("punctuation", Category.punctuation),
   ("punct", Category.punctuation), ("connectorpunctuation", [.connectorPunctuation]),
   ("dashpunctuation", [.dashPunctuation]), ("openpunctuation", [.openPunctuation]),
   ("closepunctuation", [.closePunctuation]), ("initialpunctuation", [.initialPunctuation]),
   ("finalpunctuation", [.finalPunctuation]), ("otherpunctuation", [.otherPunctuation]),
   ("symbol", Category.symbols), ("mathsymbol", [.mathSymbol]),
   ("currencysymbol", [.currencySymbol]), ("modifiersymbol", [.modifierSymbol]),
   ("othersymbol", [.otherSymbol]), ("separator", Category.separators),
   ("spaceseparator", [.spaceSeparator]), ("lineseparator", [.lineSeparator]),
   ("paragraphseparator", [.paragraphSeparator]), ("control", [.control]),
   ("cntrl", [.control]), ("format", [.format]), ("privateuse", [.privateUse]),
   ("l", Category.letters), ("lc", [.upperLetter, .lowerLetter, .titleLetter]),
   ("m", Category.marks), ("n", Category.numbers), ("p", Category.punctuation),
   ("s", Category.symbols), ("z", Category.separators)]

/-- The set of all characters with a category. -/
def assigned : CharSet := ofRanges (rangesOf Category.all)

/-- The characters without a visible role, and all without a category. -/
def other : CharSet :=
  complement (ofRanges (rangesOf (Category.letters ++ Category.marks ++ Category.numbers ++
    Category.punctuation ++ Category.symbols ++ Category.separators)))

/-- The sets of properties that are no categories. -/
def propertyNames : List (String × CharSet) :=
  [("any", all), ("assigned", assigned), ("ascii", ⟨[⟨0, 0x7F⟩]⟩),
   ("unassigned", complement assigned), ("cn", complement assigned),
   ("other", other), ("c", other),
   ("whitespace", blank), ("space", blank), ("wspace", blank)]

/-- A name without what does not count in it: case, blanks, hyphens, low lines,
and `is` in front. -/
def looseName (name : List Char) : List Char :=
  let plain := (name.filter fun c => !(isBlank c || c == '-' || c == '_')).map Char.toLower
  match plain with
  | 'i' :: 's' :: rest => if rest == ['c'] then plain else rest
  | _ => plain

/-- The set of a loose name. -/
def ofLooseName? (name : List Char) : Option CharSet :=
  match propertyNames.find? fun entry => entry.1.toList == name with
  | some entry => some entry.2
  | none =>
    match categoryNames.find? fun entry => entry.1.toList == name with
    | some entry => some (ofRanges (rangesOf entry.2))
    | none =>
      (Category.all.find? fun category =>
        category.abbreviation.toList.map Char.toLower == name && category != .surrogate).map
        fun category => ofRanges category.ranges

/-- The set of a property: the name of one, or the general category and its name. -/
def ofProperty? (name : List Char) : Option CharSet :=
  match name.span fun c => c != '=' && c != ':' with
  | (whole, []) => ofLooseName? (looseName whole)
  | (property, _ :: value) =>
    let key := looseName property
    if key == "gc".toList || key == "generalcategory".toList then
      ofLooseName? (looseName value)
    else none

end CharSet

end LinkDigest
