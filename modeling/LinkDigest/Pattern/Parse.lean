import LinkDigest.Pattern.Lexeme
import LinkDigest.Text.Category

/-!
# Reading patterns

The written form of a pattern is read sign by sign. Groups not yet closed are
kept as a stack.
-/

namespace LinkDigest.Pattern

open LinkDigest.Text

/-- A pattern, and how deep its written form is. -/
abbrev Part := Pattern × Nat

/-- What stands in a run of parts. -/
inductive Item where
  | part (p : Part)
  /-- A change of flags, which matches nothing and cannot be repeated. -/
  | flagChange

/-- A group not yet closed, with what stands before it in the group around it. -/
structure OpenGroup where
  index : Option Nat
  branches : List Part
  items : List Item
  flags : Flags

/-- Where a reader stands. What it has read of the innermost group comes last first. -/
structure Reader where
  rest : List Char
  flags : Flags
  /-- The branches that are finished. -/
  branches : List Part
  /-- The items of the branch begun. -/
  items : List Item
  stack : List OpenGroup
  /-- How many groups have numbers. -/
  groups : Nat
  names : List (List Char × Nat)

/-- Before the first sign. -/
def Reader.new (text : List Char) : Reader := ⟨text, .none, [], [], [], 0, []⟩

/-- The pattern of an item. -/
def Item.toPart : Item → Part
  | .part p => p
  | .flagChange => (.empty, 0)

/-- One item behind the other. -/
def sequenceOf (items : List Item) : Part :=
  match items.map Item.toPart with
  | [] => (.empty, 0)
  | [one] => one
  | many => (sequenceAll (many.map Prod.fst), 1 + (many.map Prod.snd).foldl max 0)

/-- All branches of the innermost group. -/
def Reader.finished (r : Reader) : Part :=
  match (sequenceOf r.items.reverse :: r.branches).reverse with
  | [] => (.empty, 0)
  | [one] => one
  | many => (choiceAll (many.map Prod.fst), 1 + (many.map Prod.snd).foldl max 0)

/-- With one item more, and what follows it. -/
def Reader.push (r : Reader) (p : Pattern) (depth : Nat) (rest : List Char) : Reader :=
  { r with items := .part (p, depth) :: r.items, rest }

/-- The last item repeated; lazy if a question mark follows. -/
def Reader.repeatLast? (r : Reader) (least : Nat) (most : Option Nat) (rest : List Char) :
    Option Reader :=
  match r.items with
  | .part (p, depth) :: before =>
    let (lazy, rest) : Bool × List Char :=
      match rest with
      | '?' :: rest => (true, rest)
      | _ => (false, rest)
    some { r with
      items := .part (repeated p least most (lazy == r.flags.swapGreed), depth + 1) :: before
      rest }
  | _ => none

/-! ## Groups -/

/-- Whether a character may stand in the name of a group. -/
def isNameChar (first : Bool) (c : Char) : Bool :=
  c == '_' || (if first then isAlphabetic c
    else isAlphanumeric c || c == '.' || c == '[' || c == ']')

/-- The name of a group up to its closing sign. -/
def groupName? (text : List Char) : Option (List Char × List Char) :=
  match text.span (· != '>') with
  | (name, '>' :: rest) =>
    match name with
    | [] => none
    | c :: more =>
      if isNameChar true c && more.all (isNameChar false) then some (name, rest) else none
  | _ => none

/-- The flags with one of them set. The flag for Unicode changes nothing. -/
def setFlag? (f : Flags) (on : Bool) (c : Char) : Option Flags :=
  match c with
  | 'i' => some { f with ignoreCase := on }
  | 'm' => some { f with multiLine := on }
  | 's' => some { f with dotAll := on }
  | 'U' => some { f with swapGreed := on }
  | 'x' => some { f with verbose := on }
  | 'u' => some f
  | _ => none

/-- Flags set in turn; those behind a hyphen are taken back. -/
def setFlags? (f : Flags) (on : Bool) : List Char → Option Flags
  | [] => some f
  | '-' :: rest => if on then setFlags? f false rest else none
  | c :: rest => do setFlags? (← setFlag? f on c) on rest

/-- The flags that a run of signs sets: none twice, and none missing behind a hyphen. -/
def flags? (f : Flags) (signs : List Char) : Option Flags :=
  if signs.getLast? = some '-' ∨ signs.eraseDups.length < signs.length then none
  else setFlags? f true signs

/-- A group opened. -/
def Reader.enter (r : Reader) (index : Option Nat) (flags : Flags) (rest : List Char) : Reader :=
  { r with
    rest, flags, branches := [], items := []
    stack := ⟨index, r.branches, r.items, r.flags⟩ :: r.stack }

/-- A group with a number opened. -/
def Reader.enterNumbered (r : Reader) (rest : List Char) : Reader :=
  { r.enter (some (r.groups + 1)) r.flags rest with groups := r.groups + 1 }

/-- A group with a number and a name opened; no name twice. -/
def Reader.enterNamed? (r : Reader) (text : List Char) : Option Reader := do
  let (name, rest) ← groupName? text
  if (r.names.lookup name).isSome then none
  else
    let entered := r.enterNumbered rest
    some { entered with names := (name, entered.groups) :: r.names }

/-- What stands behind an opening parenthesis. Conditions on what lies around a
place are no part of patterns. -/
def Reader.group? (r : Reader) (text : List Char) : Option Reader :=
  match r.flags.skip text with
  | '?' :: '=' :: _ => none
  | '?' :: '!' :: _ => none
  | '?' :: '<' :: '=' :: _ => none
  | '?' :: '<' :: '!' :: _ => none
  | '?' :: 'P' :: '<' :: rest => r.enterNamed? rest
  | '?' :: '<' :: rest => r.enterNamed? rest
  | '?' :: rest => do
    let (signs, behind) := rest.span fun c => c != ':' && c != ')'
    let flags ← flags? r.flags signs
    match behind with
    | ':' :: rest => return r.enter none flags rest
    | ')' :: rest =>
      if signs.isEmpty then none
      else return { r with rest, flags, items := .flagChange :: r.items }
    | _ => none
  | rest => some (r.enterNumbered rest)

/-- The innermost group closed. -/
def Reader.leave? (r : Reader) (rest : List Char) : Option Reader :=
  match r.stack with
  | [] => none
  | outer :: stack =>
    let (inner, depth) := r.finished
    let closed := match outer.index with
      | some index => .group index inner
      | none => inner
    some { r with
      rest, stack
      flags := outer.flags
      branches := outer.branches
      items := .part (closed, depth + 1) :: outer.items }

/-! ## All signs -/

/-- What stands behind a backslash outside of sets. -/
def Reader.escaped? (r : Reader) (text : List Char) : Option Reader := do
  match ← escape? r.flags text with
  | (.literal c, rest) => return r.push (.set (r.flags.cases (CharSet.singleton c))) 0 rest
  | (.set chars, rest) => return r.push (.set chars) 0 rest
  | (.condition a, rest) => return r.push (.assertion a) 0 rest

/-- One sign, which the text is known to begin with. -/
def Reader.step? (r : Reader) (c : Char) (rest : List Char) : Option Reader :=
  match c with
  | '(' => r.group? rest
  | ')' => r.leave? rest
  | '|' => some { r with branches := sequenceOf r.items.reverse :: r.branches, items := [], rest }
  | '[' => do
    let ((chars, depth), rest) ← bracketSet? r.flags rest
    return r.push (.set chars) depth rest
  | '?' => r.repeatLast? 0 (some 1) rest
  | '*' => r.repeatLast? 0 none rest
  | '+' => r.repeatLast? 1 none rest
  | '\x7b' => do
    let (least, most, rest) ← counts? r.flags rest
    r.repeatLast? least most (r.flags.skip rest)
  | '\\' => r.escaped? rest
  | '.' =>
    some (r.push (.set (if r.flags.dotAll then CharSet.all else CharSet.noLineFeed)) 0 rest)
  | '^' => some (r.push (.assertion (if r.flags.multiLine then .lineStart else .textStart)) 0 rest)
  | '$' => some (r.push (.assertion (if r.flags.multiLine then .lineEnd else .textEnd)) 0 rest)
  | c => some (r.push (.set (r.flags.cases (CharSet.singleton c))) 0 rest)

/-- All signs. Each leaves less of the text, so there is fuel enough. -/
def Reader.run? : Nat → Reader → Option Reader
  | 0, r => if r.rest.isEmpty then some r else none
  | fuel + 1, r =>
    match r.flags.skip r.rest with
    | [] => some r
    | c :: rest => (r.step? c rest).bind (run? fuel)

/-- How deep a written pattern may be. -/
def maxDepth : Nat := 250

/-- A pattern with the names of its groups. -/
structure Parsed where
  pattern : Pattern
  names : List (List Char × Nat)

/-- The pattern a text writes, if it writes one and it is neither too deep nor
too large. -/
def parse? (text : List Char) : Option Parsed := do
  let r ← (Reader.new text).run? (text.length + 1)
  let (pattern, depth) := r.finished
  if r.stack.isEmpty ∧ depth ≤ maxDepth ∧ pattern.size ≤ maxSize then
    some ⟨pattern, r.names⟩
  else none

end LinkDigest.Pattern
