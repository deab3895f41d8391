import LinkDigest.Json.Basic

/-!
# Number literals

What a number literal may look like, and its value.
-/

namespace LinkDigest.Json.Number

/-- A literal in its parts: the sign, the figures before and after the point,
and the exponent. -/
structure Parts where
  negative : Bool
  whole : List Char
  fraction : Option (List Char)
  exponent : Option (Bool × List Char)
deriving DecidableEq, Repr

/-- The value of figures. -/
def figures (digits : List Char) : Nat :=
  digits.foldl (fun n c => n * 10 + (c.toNat - 48)) 0

/-- The exponent of what follows the figures, if it is one. -/
def exponent? : List Char → Option (Option (Bool × List Char))
  | [] => some none
  | mark :: rest =>
    if mark = 'e' ∨ mark = 'E' then
      let signed : Bool × List Char :=
        match rest with
        | '-' :: digits => (true, digits)
        | '+' :: digits => (false, digits)
        | digits => (false, digits)
      if signed.2.isEmpty ∨ ¬ signed.2.all Char.isDigit then none else some (some signed)
    else none

/-- The parts of a literal; none if it is no number. No figure follows a
leading zero, and figures stand on both sides of a point. -/
def parts? (literal : List Char) : Option Parts := do
  let (negative, unsigned) : Bool × List Char :=
    match literal with
    | '-' :: rest => (true, rest)
    | rest => (false, rest)
  let whole := unsigned.takeWhile Char.isDigit
  if whole.isEmpty ∨ (whole.length > 1 ∧ whole.head? = some '0') then none
  match unsigned.dropWhile Char.isDigit with
  | '.' :: rest =>
    let fraction := rest.takeWhile Char.isDigit
    if fraction.isEmpty then none
    else return ⟨negative, whole, some fraction, ← exponent? (rest.dropWhile Char.isDigit)⟩
  | rest => return ⟨negative, whole, none, ← exponent? rest⟩

/-- The exponent of a literal, counted from the last of its figures. -/
def Parts.scale (parts : Parts) : Int :=
  let exponent : Int :=
    match parts.exponent with
    | none => 0
    | some (negative, digits) => if negative then -(figures digits : Int) else figures digits
  exponent - (parts.fraction.getD []).length

/-- The figures of a literal as a number, without the point. -/
def Parts.mantissa (parts : Parts) : Nat := figures (parts.whole ++ parts.fraction.getD [])

/-- The double nearest to the value of a literal. -/
def double? (literal : List Char) : Option Float :=
  (parts? literal).map fun parts =>
    let size := Float.ofScientific parts.mantissa (parts.scale < 0) parts.scale.natAbs
    if parts.negative then -size else size

/-- The integer a literal writes without point or exponent. A negative zero
writes none. -/
def integer? (literal : List Char) : Option Int := do
  let parts ← parts? literal
  if parts.fraction.isSome ∨ parts.exponent.isSome then none
  let value := figures parts.whole
  if parts.negative then
    if value = 0 then none else some (-(value : Int))
  else some value

/-- The integer of a value, if it lies between the bounds. -/
def integerIn? (low high : Int) : Json → Option Int
  | .number literal => do
    let value ← integer? literal
    if low ≤ value ∧ value ≤ high then some value else none
  | _ => none

/-- Half a step beyond the largest finite double: a value from here on has none. -/
def doubleBound : Nat := Nat.pow 2 1024 - Nat.pow 2 970

/-- Whether the value of a literal is within the range of doubles. -/
def isFinite (literal : List Char) : Bool :=
  match parts? literal with
  | none => false
  | some parts =>
    if parts.mantissa = 0 then true
    else if parts.scale > 400 then false
    else if parts.scale ≥ 0 then parts.mantissa * Nat.pow 10 parts.scale.toNat < doubleBound
    else
      let places := (-parts.scale).toNat
      if places > parts.whole.length + (parts.fraction.getD []).length then true
      else parts.mantissa < doubleBound * Nat.pow 10 places

end LinkDigest.Json.Number
