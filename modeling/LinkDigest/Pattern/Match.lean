import LinkDigest.Pattern.Parse
import LinkDigest.Pattern.Program

/-!
# Matching

All ways through a program are followed at once, character by character, in
the order of their preference. Of two ways that meet at a node only the
preferred one goes on, so the work is bounded by nodes times characters.
-/

namespace LinkDigest

open LinkDigest.Text

/-- A pattern made ready for matching. -/
structure Matcher where
  program : Pattern.Program
  /-- The numbers of the groups with names. -/
  names : List (List Char × Nat)

namespace Matcher

/-- The matcher of a written pattern. -/
def ofText? (text : List Char) : Option Matcher :=
  (Pattern.parse? text).map fun parsed => ⟨.ofPattern parsed.pattern, parsed.names⟩

/-- A place in a text: how many characters lie before it, the last of these, and
all that follow. -/
structure Place where
  offset : Nat
  before : Option Char
  rest : List Char

/-- The beginning of a text. -/
def Place.start (text : List Char) : Place := ⟨0, none, text⟩

/-- The place one character further on. -/
def Place.next : Place → Place
  | ⟨offset, before, []⟩ => ⟨offset, before, []⟩
  | ⟨offset, _, c :: rest⟩ => ⟨offset + 1, some c, rest⟩

/-- The place some characters further on. -/
def Place.advance (place : Place) : Nat → Place
  | 0 => place
  | count + 1 => place.next.advance count

/-- Whether there is a character of a word. -/
def isWordAt (c : Option Char) : Bool := c.any CharSet.word.contains

/-- Whether a condition holds at a place. -/
def holds (condition : Assertion) (place : Place) : Bool :=
  let after := place.rest.head?
  match condition with
  | .textStart => place.offset == 0
  | .textEnd => place.rest.isEmpty
  | .lineStart => place.offset == 0 || place.before == some '\n'
  | .lineEnd => place.rest.isEmpty || after == some '\n'
  | .wordBoundary => isWordAt place.before != isWordAt after
  | .noWordBoundary => isWordAt place.before == isWordAt after
  | .wordStart => !isWordAt place.before && isWordAt after
  | .wordEnd => isWordAt place.before && !isWordAt after
  | .wordStartHalf => !isWordAt place.before
  | .wordEndHalf => !isWordAt after

/-- One way through the program: the node it has come to, and the places kept
in slots, the latest first. -/
structure Way where
  node : Nat
  slots : List (Nat × Nat)

/-- The ways that need a character to go on, in order of preference, and the
slots of the way that needs none. What comes behind such a way is dropped.
`seen` has a bit for each node that a way has come to. -/
def settle (program : Pattern.Program) (place : Place) :
    Nat → List Way → Nat → List Way → List Way × Option (List (Nat × Nat))
  | 0, _, _, waiting => (waiting.reverse, none)
  | _, [], _, waiting => (waiting.reverse, none)
  | fuel + 1, way :: ways, seen, waiting =>
    if seen.testBit way.node then settle program place fuel ways seen waiting
    else
      let seen := seen ||| (1 <<< way.node)
      match program.nodes[way.node]? with
      | none => settle program place fuel ways seen waiting
      | some (.consume _ _) => settle program place fuel ways seen (way :: waiting)
      | some (.check condition next) =>
        if holds condition place then
          settle program place fuel (⟨next, way.slots⟩ :: ways) seen waiting
        else settle program place fuel ways seen waiting
      | some (.fork first second) =>
        settle program place fuel (⟨first, way.slots⟩ :: ⟨second, way.slots⟩ :: ways) seen waiting
      | some (.keep slot next) =>
        settle program place fuel (⟨next, (slot, place.offset) :: way.slots⟩ :: ways) seen waiting
      | some .accept => (waiting.reverse, some ((1, place.offset) :: way.slots))

/-- The ways that go on with a character. -/
def consume (program : Pattern.Program) (c : Char) (ways : List Way) : List Way :=
  ways.filterMap fun (way : Way) =>
    match program.nodes[way.node]? with
    | some (.consume chars next) => if chars.contains c then some ⟨next, way.slots⟩ else none
    | _ => none

/-- The slots of the first match from a place on. As long as there is none, a
new way begins at each place, behind all others. -/
def searchFrom (program : Pattern.Program) (offset : Nat) (before : Option Char)
    (ways : List Way) (best : Option (List (Nat × Nat))) (rest : List Char) :
    Option (List (Nat × Nat)) :=
  let ways := if best.isNone then ways ++ [⟨program.start, [(0, offset)]⟩] else ways
  let fuel := ways.length + 2 * program.nodes.size + 1
  let (waiting, found) := settle program ⟨offset, before, rest⟩ fuel ways 0 []
  let best := found.or best
  match rest with
  | [] => best
  | c :: rest =>
    let ways := consume program c waiting
    if ways.isEmpty && best.isSome then best
    else searchFrom program (offset + 1) (some c) ways best rest

/-- What a search has found: where it begins and ends, and all slots. -/
structure Found where
  start : Nat
  stop : Nat
  slots : List (Nat × Nat)

/-- The first match from a place on. -/
def find? (m : Matcher) (place : Place) : Option Found := do
  let slots ← searchFrom m.program place.offset place.before [] none place.rest
  return ⟨← slots.lookup 0, ← slots.lookup 1, slots⟩

/-- Whether there is a match in a text. -/
def isMatch (m : Matcher) (text : List Char) : Bool := (m.find? (.start text)).isSome

/-- The first match that is not empty where the last one ended. -/
def findNext? (m : Matcher) (place : Place) (last : Option Nat) : Option Found :=
  match m.find? place with
  | none => none
  | some found =>
    if found.start = found.stop ∧ last = some found.stop then
      if place.rest.isEmpty then none else m.find? place.next
    else some found

/-- All matches from a place on, one behind the other. Each ends further on than
the last, or is empty where the last was not. -/
def allFrom (m : Matcher) : Nat → Place → Option Nat → List Found
  | 0, _, _ => []
  | fuel + 1, place, last =>
    match m.findNext? place last with
    | none => []
    | some found =>
      found :: allFrom m fuel (place.advance (found.stop - place.offset)) (some found.stop)

/-- All matches in a text. -/
def all (m : Matcher) (text : List Char) : List Found :=
  m.allFrom (2 * text.length + 2) (.start text) none

/-- The part of a text between two places. -/
def slice (text : List Char) (start stop : Nat) : List Char := (text.drop start).take (stop - start)

/-- What a group has matched; group 0 is the whole match. -/
def Found.group? (found : Found) (text : List Char) (index : Nat) : Option (List Char) := do
  let start ← found.slots.lookup (2 * index)
  let stop ← found.slots.lookup (2 * index + 1)
  return slice text start stop

end Matcher

end LinkDigest
