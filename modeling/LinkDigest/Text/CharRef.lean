import LinkDigest.Text.CharName

/-!
# Character references

Characters written in markup as an ampersand, a name or a number, and a
semicolon. What is no such reference stays as it is written.
-/

namespace LinkDigest.Text.CharRef

/-- The character of a number; none for zero and for what is no character. -/
def charOfCode? (code : Nat) : Option Char :=
  if code ≠ 0 ∧ code.isValidChar then some (Char.ofNat code) else none

/-- The number that decimal figures write, if they are any. -/
def decimal? (figures : List Char) : Option Nat :=
  if figures.isEmpty ∨ ¬ figures.all Char.isDigit then none
  else some (figures.foldl (fun n c => n * 10 + (c.toNat - 48)) 0)

/-- The number that hexadecimal figures write, if they are any. -/
def hexadecimal? (figures : List Char) : Option Nat :=
  if figures.isEmpty then none else Hex.number? figures

/-- The character a reference stands for, by what is between ampersand and semicolon. -/
def char? : List Char → Option Char
  | '#' :: 'x' :: figures => (hexadecimal? figures).bind charOfCode?
  | '#' :: 'X' :: figures => (hexadecimal? figures).bind charOfCode?
  | '#' :: figures => (decimal? figures).bind charOfCode?
  | name => (nameTable.lookup name).map Char.ofNat

/-- Whether a character goes on inside a reference. -/
def isInside (c : Char) : Bool := c != ';' && c != '&'

/-- The reference a text begins with behind its ampersand, and what follows it. -/
def reference? (text : List Char) : Option (Char × List Char) :=
  match text.dropWhile isInside with
  | ';' :: rest => (char? (text.takeWhile isInside)).map fun c => (c, rest)
  | _ => none

theorem length_reference? {text rest : List Char} {c : Char}
    (h : reference? text = some (c, rest)) : rest.length < text.length := by
  unfold reference? at h
  split at h
  · next tail hd =>
    obtain ⟨d, -, hd'⟩ := Option.map_eq_some_iff.1 h
    cases hd'
    have := (List.dropWhile_sublist (p := isInside) (l := text)).length_le
    rw [hd, List.length_cons] at this
    omega
  · cases h

/-- The text with characters in place of their references. -/
def decode : List Char → List Char
  | [] => []
  | c :: text =>
    if c = '&' then
      match _found : reference? text with
      | some (d, rest) => d :: decode rest
      | none => '&' :: decode text
    else c :: decode text
termination_by text => text.length
decreasing_by
  · have := length_reference? (by assumption)
    simp only [List.length_cons]
    omega
  · simp
  · simp

end LinkDigest.Text.CharRef
