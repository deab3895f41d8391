import LinkDigest.Pattern.Match

/-!
# Templates

A text with places for groups of a match: a dollar sign and the number or name
of the group, in braces if it does not end by itself. Two dollar signs stand
for one.
-/

namespace LinkDigest

/-- What a place in a template stands for. -/
inductive GroupRef where
  | number (index : Nat)
  | name (text : List Char)
deriving DecidableEq, Repr

/-- A part of a template. -/
inductive TemplatePart where
  | char (c : Char)
  | group (ref : GroupRef)
deriving DecidableEq, Repr

namespace Template

/-- Characters of names without braces. -/
def isNameChar (c : Char) : Bool := c.isAlphanum || c == '_'

/-- The group that a word stands for: a number, which may have a sign in front,
or else a name. -/
def refOfWord (word : List Char) : GroupRef :=
  let figures := match word with
    | '+' :: rest => rest
    | _ => word
  let value := figures.foldl (fun n c => n * 10 + (c.toNat - 48)) 0
  if !figures.isEmpty && figures.all Char.isDigit && value < UInt64.size then .number value
  else .name word

/-- The group named behind a dollar sign, and what follows. -/
def ref? : List Char → Option (GroupRef × List Char)
  | '\x7b' :: rest =>
    match rest.dropWhile (· != '\x7d') with
    | [] => none
    | _ :: after => some (refOfWord (rest.takeWhile (· != '\x7d')), after)
  | rest =>
    let word := rest.takeWhile isNameChar
    if word.isEmpty then none else some (refOfWord word, rest.drop word.length)

theorem length_ref? {text after : List Char} {ref : GroupRef} (h : ref? text = some (ref, after)) :
    after.length ≤ text.length := by
  have hdrop (p : Char → Bool) (s : List Char) : (s.dropWhile p).length ≤ s.length :=
    (List.dropWhile_sublist p).length_le
  unfold ref? at h
  split at h
  · next rest =>
    split at h
    · cases h
    · next tail hd =>
      cases h
      have := hdrop (· != '\x7d') rest
      rw [hd, List.length_cons] at this
      simp only [List.length_cons]
      omega
  · dsimp only at h
    split at h
    · cases h
    · cases h
      simp only [List.length_drop]
      omega

/-- The parts of a template. A dollar sign with nothing behind it that names a
group stands for itself. -/
def parts : List Char → List TemplatePart
  | [] => []
  | '$' :: '$' :: rest => .char '$' :: parts rest
  | '$' :: rest =>
    match _found : ref? rest with
    | some (ref, after) => .group ref :: parts after
    | none => .char '$' :: parts rest
  | c :: rest => .char c :: parts rest
termination_by text => text.length
decreasing_by
  · simp only [List.length_cons]
    omega
  · have := length_ref? (by assumption)
    simp only [List.length_cons]
    omega
  · simp
  · simp

/-- What a group stands for: nothing, if the match has no such group. -/
def expandRef (m : Matcher) (found : Matcher.Found) (text : List Char) : GroupRef → List Char
  | .number index => (found.group? text index).getD []
  | .name name =>
    match m.names.lookup name with
    | some index => (found.group? text index).getD []
    | none => []

/-- The template with the groups of a match in their places. -/
def expand (m : Matcher) (found : Matcher.Found) (text template : List Char) : List Char :=
  (parts template).flatMap fun part =>
    match part with
    | .char c => [c]
    | .group ref => expandRef m found text ref

end Template

namespace Matcher

/-- What lies between matches and behind them, from an offset on, with a
template in place of each match. -/
def replaceFrom (m : Matcher) (text template : List Char) (offset : Nat) :
    List Found → List Char
  | [] => text.drop offset
  | found :: rest =>
    slice text offset found.start ++ Template.expand m found text template ++
      replaceFrom m text template found.stop rest

/-- The text with a template in place of all matches. -/
def replaceAll (m : Matcher) (text template : List Char) : List Char :=
  m.replaceFrom text template 0 (m.all text)

end Matcher

end LinkDigest
