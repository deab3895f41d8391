import LinkDigest.Pattern.Basic

/-!
# Parts of written patterns

What a backslash, a bracket or a brace begins in the written form of a pattern.
Each reader takes the text behind the sign and gives what it means and the text
behind it, or nothing if it means nothing.
-/

namespace LinkDigest.Pattern

open LinkDigest.Text

/-- How a part of a pattern is read. -/
structure Flags where
  ignoreCase : Bool
  /-- Lines have beginnings and ends of their own. -/
  multiLine : Bool
  /-- The dot stands for the line feed too. -/
  dotAll : Bool
  /-- Repetitions are lazy, and greedy with a question mark. -/
  swapGreed : Bool
  /-- Blanks and comments do not count. -/
  verbose : Bool
deriving DecidableEq, Repr

/-- No flag is set. -/
def Flags.none : Flags := ⟨false, false, false, false, false⟩

/-- The text without the blanks and comments it begins with. -/
def skipComments (inComment : Bool) : List Char → List Char
  | [] => []
  | c :: rest =>
    if inComment then skipComments (c != '\n') rest
    else if isBlank c then skipComments false rest
    else if c = '#' then skipComments true rest
    else c :: rest

namespace Flags

/-- The text from the next sign that counts. -/
def skip (f : Flags) (text : List Char) : List Char :=
  if f.verbose then skipComments false text else text

/-- The set with all cases of its characters, if case does not matter. -/
def cases (f : Flags) (s : CharSet) : CharSet := if f.ignoreCase then s.withCases else s

/-- At most `count` characters that `p` accepts, passing over what does not count. -/
def takeUpTo (f : Flags) (p : Char → Bool) : Nat → List Char → List Char × List Char
  | 0, text => ([], text)
  | _ + 1, [] => ([], [])
  | count + 1, c :: rest =>
    if p c then
      let more := f.takeUpTo p count (f.skip rest)
      (c :: more.1, more.2)
    else ([], c :: rest)

/-- All characters that `p` accepts, passing over what does not count. -/
def takeAll (f : Flags) (p : Char → Bool) (text : List Char) : List Char × List Char :=
  f.takeUpTo p text.length text

end Flags

/-! ## Escapes -/

/-- What stands behind a backslash. -/
inductive Escape where
  | literal (c : Char)
  | set (chars : CharSet)
  | condition (assertion : Assertion)
deriving Repr

/-- The character of a code in hexadecimal. -/
def charOfHex? (digits : List Char) : Option Char := do
  let code ← Hex.number? digits
  if code.isValidChar then some (Char.ofNat code) else none

/-- Whether a character is a hexadecimal digit. -/
def isHexDigit (c : Char) : Bool := (Hex.value? c).isSome

/-- A character by its code: so many digits, or any number of them in braces. -/
def hexEscape? (f : Flags) (count : Nat) (text : List Char) : Option (Escape × List Char) :=
  match f.skip text with
  | '\x7b' :: rest =>
    match f.takeAll isHexDigit (f.skip rest) with
    | (digits, '\x7d' :: rest) =>
      if digits.isEmpty then none
      else (charOfHex? digits).map fun c => (.literal c, f.skip rest)
    | _ => none
  | text =>
    let (digits, rest) := f.takeUpTo isHexDigit count text
    if digits.length = count then (charOfHex? digits).map fun c => (.literal c, rest) else none

/-- The characters of a property: one letter, or a name in braces. -/
def propertyEscape? (f : Flags) (negated : Bool) (text : List Char) :
    Option (Escape × List Char) := do
  let (name, rest) ← match f.skip text with
    | '\x7b' :: rest =>
      match f.takeAll (· != '\x7d') (f.skip rest) with
      | (name, '\x7d' :: rest) => some (name, rest)
      | _ => none
    | c :: rest => if c = '\\' then none else some ([c], f.skip rest)
    | [] => none
  let chars := f.cases (← CharSet.ofProperty? name)
  return (.set (if negated then chars.complement else chars), rest)

/-- The condition of a name in braces. -/
def boundaryOfName? (name : List Char) : Option Assertion :=
  if name = "start".toList then some .wordStart
  else if name = "end".toList then some .wordEnd
  else if name = "start-half".toList then some .wordStartHalf
  else if name = "end-half".toList then some .wordEndHalf
  else none

/-- Characters of such names. -/
def isBoundaryChar (c : Char) : Bool := c.isAlpha || c == '-'

/-- A boundary of words; a name in braces tells which. Braces with anything else
are no part of it. -/
def boundaryEscape? (f : Flags) (text : List Char) : Option (Escape × List Char) :=
  match text with
  | '\x7b' :: rest =>
    let (name, after) := f.takeAll isBoundaryChar (f.skip rest)
    if (f.skip rest).isEmpty then none
    else if name.isEmpty then some (.condition .wordBoundary, text)
    else
      match after with
      | '\x7d' :: after => (boundaryOfName? name).map fun a => (.condition a, after)
      | _ => none
  | _ => some (.condition .wordBoundary, text)

/-- Signs with a meaning of their own, which they lose behind a backslash. -/
def isMeta (c : Char) : Bool := "\\.+*?()|[]\x7b\x7d^$#&-~".toList.contains c

/-- Characters that may stand behind a backslash without need. -/
def isPlainEscape (c : Char) : Bool :=
  isMeta c || (c.toNat < 0x80 && !c.isAlphanum && c != '<' && c != '>')

/-- What stands behind a backslash. -/
def escape? (f : Flags) : List Char → Option (Escape × List Char)
  | [] => none
  | c :: rest =>
    match c with
    | 'x' => hexEscape? f 2 rest
    | 'u' => hexEscape? f 4 rest
    | 'U' => hexEscape? f 8 rest
    | 'p' => propertyEscape? f false rest
    | 'P' => propertyEscape? f true rest
    | 'd' => some (.set CharSet.digit, rest)
    | 'D' => some (.set CharSet.digit.complement, rest)
    | 's' => some (.set CharSet.blank, rest)
    | 'S' => some (.set CharSet.blank.complement, rest)
    | 'w' => some (.set CharSet.word, rest)
    | 'W' => some (.set CharSet.word.complement, rest)
    | 'a' => some (.literal '\x07', rest)
    | 'f' => some (.literal '\x0c', rest)
    | 't' => some (.literal '\t', rest)
    | 'n' => some (.literal '\n', rest)
    | 'r' => some (.literal '\r', rest)
    | 'v' => some (.literal '\x0b', rest)
    | 'A' => some (.condition .textStart, rest)
    | 'z' => some (.condition .textEnd, rest)
    | 'b' => boundaryEscape? f rest
    | 'B' => some (.condition .noWordBoundary, rest)
    | '<' => some (.condition .wordStart, rest)
    | '>' => some (.condition .wordEnd, rest)
    | c => if isPlainEscape c then some (.literal c, rest) else none

/-! ## Sets in brackets -/

/-- A set, and how deep its written form is. -/
abbrev Operand := CharSet × Nat

/-- What joins two sets. -/
inductive SetOperation where
  | inter
  | diff
  | symmDiff
deriving DecidableEq, Repr

/-- The joined set. -/
def SetOperation.apply : SetOperation → CharSet → CharSet → CharSet
  | .inter => CharSet.inter
  | .diff => CharSet.diff
  | .symmDiff => CharSet.symmDiff

/-- What is open around a part of a set. -/
inductive SetFrame where
  /-- A bracket, the items before it, and whether it is a complement. -/
  | bracket (before : List Operand) (negated : Bool)
  /-- An operation and what stands to its left. -/
  | operation (op : SetOperation) (left : Operand)

/-- Items side by side. -/
def unite (operands : List Operand) : Operand :=
  match operands with
  | [] => (CharSet.empty, 0)
  | [one] => one
  | many =>
    (CharSet.ofRanges (many.flatMap fun item => item.1.ranges),
     1 + (many.map Prod.snd).foldl max 0)

/-- The operation on top of the stack carried out. -/
def closeOperation (f : Flags) (right : Operand) : List SetFrame → Operand × List SetFrame
  | .operation op left :: stack =>
    ((op.apply (f.cases left.1) (f.cases right.1), 1 + max left.2 right.2), stack)
  | stack => (right, stack)

/-- Hyphens at the beginning of a set, which stand for themselves. -/
def leadingHyphens (f : Flags) : Nat → List Char → List Operand × List Char
  | count + 1, '-' :: rest =>
    let more := leadingHyphens f count (f.skip rest)
    ((CharSet.singleton '-', 0) :: more.1, more.2)
  | _, text => ([], text)

/-- The beginning of a set behind its bracket: whether it is a complement, and
the signs that stand for themselves because they come first. -/
def openSet (f : Flags) (text : List Char) : Bool × List Operand × List Char :=
  let text := f.skip text
  let (negated, text) : Bool × List Char :=
    match text with
    | '^' :: rest => (true, f.skip rest)
    | _ => (false, text)
  let (hyphens, text) := leadingHyphens f text.length text
  match hyphens, text with
  | [], ']' :: rest => (negated, [(CharSet.singleton ']', 0)], f.skip rest)
  | _, _ => (negated, hyphens, text)

/-- A named set within ASCII, as it stands behind a bracket. -/
def asciiSet? (text : List Char) : Option (CharSet × List Char) :=
  match text with
  | ':' :: rest =>
    let (negated, rest) : Bool × List Char :=
      match rest with
      | '^' :: rest => (true, rest)
      | _ => (false, rest)
    match rest.span (· != ':') with
    | (name, ':' :: ']' :: rest) =>
      (CharSet.ofAsciiName? name).map fun s => (if negated then s.complement else s, rest)
    | _ => none
  | _ => none

/-- One member of a set, or one end of a range. -/
def member? (f : Flags) : List Char → Option (Escape × List Char)
  | [] => none
  | '\\' :: rest => escape? f rest
  | c :: rest => some (.literal c, rest)

/-- The set of a member. A condition is none. -/
def Escape.set? : Escape → Option CharSet
  | .literal c => some (CharSet.singleton c)
  | .set chars => some chars
  | .condition _ => none

/-- One item of a set: a member, or a range between two characters. -/
def setItem? (f : Flags) (text : List Char) : Option (CharSet × List Char) := do
  let (first, rest) ← member? f text
  let rest := f.skip rest
  match rest with
  | [] => none
  | '-' :: behind =>
    let behind := f.skip behind
    match behind with
    | [] => none
    | ']' :: _ => return (← first.set?, rest)
    | '-' :: _ => return (← first.set?, rest)
    | _ =>
      match first, ← member? f behind with
      | .literal a, (.literal b, after) =>
        if a.toNat ≤ b.toNat then some (CharSet.between a b, after) else none
      | _, _ => none
  | _ => return (← first.set?, rest)

/-- A set in brackets from some place inside it. The items of the innermost
bracket come last first. -/
def readSet (f : Flags) : Nat → List SetFrame → List Operand → List Char →
    Option (Operand × List Char)
  | 0, _, _, _ => none
  | fuel + 1, stack, items, text =>
    let operate (op : SetOperation) (rest : List Char) : Option (Operand × List Char) :=
      let (left, stack) := closeOperation f (unite items.reverse) stack
      readSet f fuel (.operation op left :: stack) [] rest
    match f.skip text with
    | [] => none
    | '[' :: rest =>
      match asciiSet? rest with
      | some (chars, rest) => readSet f fuel stack ((chars, 0) :: items) rest
      | none =>
        let (negated, first, rest) := openSet f rest
        readSet f fuel (.bracket items negated :: stack) first.reverse rest
    | ']' :: rest =>
      let (inner, stack) := closeOperation f (unite items.reverse) stack
      match stack with
      | .bracket before negated :: stack =>
        let chars := f.cases inner.1
        let closed : Operand := (if negated then chars.complement else chars, inner.2 + 1)
        if stack.isEmpty then some (closed, rest) else readSet f fuel stack (closed :: before) rest
      | _ => none
    | '&' :: '&' :: rest => operate .inter rest
    | '-' :: '-' :: rest => operate .diff rest
    | '~' :: '~' :: rest => operate .symmDiff rest
    | text =>
      match setItem? f text with
      | none => none
      | some (chars, rest) => readSet f fuel stack ((chars, 0) :: items) rest

/-- The set a text begins with, behind its first bracket. -/
def bracketSet? (f : Flags) (text : List Char) : Option (Operand × List Char) :=
  let (negated, first, rest) := openSet f text
  readSet f (text.length + 1) [.bracket [] negated] first.reverse rest

/-! ## Counts -/

/-- A number among blanks; none if there is none or it is too large. -/
def decimal? (f : Flags) (text : List Char) : Option Nat × List Char :=
  let (digits, rest) := f.takeAll Char.isDigit (text.dropWhile isBlank)
  let value := digits.foldl (fun n c => n * 10 + (c.toNat - 48)) 0
  (if digits.isEmpty ∨ 4294967295 < value then none else some value, rest.dropWhile isBlank)

/-- The least and greatest count of a repetition in braces. -/
def counts? (f : Flags) (text : List Char) : Option (Nat × Option Nat × List Char) := do
  let (least, rest) := decimal? f (f.skip text)
  let least ← least
  let (most, rest) ← match rest with
    | ',' :: rest =>
      match f.skip rest with
      | '\x7d' :: rest => some (none, '\x7d' :: rest)
      | rest =>
        let (most, rest) := decimal? f rest
        most.map fun n => (some n, rest)
    | rest => some (some least, rest)
  match rest with
  | '\x7d' :: rest =>
    if most.all fun n => least ≤ n then some (least, most, rest) else none
  | _ => none

end LinkDigest.Pattern
