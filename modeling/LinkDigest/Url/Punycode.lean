/-!
# Punycode

Labels beyond ASCII written in ASCII: first the ASCII characters, then, behind
a hyphen, where each other character goes, in increasing order of characters.
A place is told as the distance from the last one, counted over all characters
and all positions, and written with a digit bound that follows the distances
seen.
-/

namespace LinkDigest.Url.Punycode

/-- The digits: small letters, then figures. -/
def digitChar (d : Nat) : Char :=
  if d < 26 then Char.ofNat (97 + d) else Char.ofNat (22 + d)

/-- The value of a digit, letters in either case. -/
def digitValue? (c : Char) : Option Nat :=
  if 'a' ≤ c ∧ c ≤ 'z' then some (c.toNat - 97)
  else if 'A' ≤ c ∧ c ≤ 'Z' then some (c.toNat - 65)
  else if '0' ≤ c ∧ c ≤ '9' then some (c.toNat - 22)
  else none

/-- The bound below which a digit at place `k` is the last. -/
def threshold (k bias : Nat) : Nat :=
  max 1 (min 26 (k - bias))

theorem threshold_pos (k bias : Nat) : 0 < threshold k bias := by
  simp only [threshold]; omega

theorem threshold_lt (k bias : Nat) : threshold k bias < 36 := by
  simp only [threshold]; omega

/-- The bias a scaled distance leads to. -/
def settle (delta k : Nat) : Nat :=
  if delta > 455 then settle (delta / 35) (k + 36)
  else k + 36 * delta / (delta + 38)
termination_by delta

/-- The bias after a distance, when `points` characters are written. -/
def adapt (delta points : Nat) (isFirst : Bool) : Nat :=
  let scaled := if isFirst then delta / 700 else delta / 2
  settle (scaled + scaled / points) 0

/-- The digits of a distance from place `k` on. -/
def number (bias : Nat) (k q : Nat) : List Char :=
  let t := threshold k bias
  if h : q < t then [digitChar q]
  else digitChar (t + (q - t) % (36 - t)) :: number bias (k + 36) ((q - t) / (36 - t))
termination_by q
decreasing_by
  have h1 := threshold_pos k bias
  exact Nat.lt_of_le_of_lt (Nat.div_le_self _ _) (by omega)

/-! ## Writing -/

/-- A writer: the distance so far, the bias, and how many characters are written. -/
structure Writer where
  delta : Nat
  bias : Nat
  written : Nat
  output : List Char

/-- One character of the label while the character `code` is being placed. -/
def Writer.pass (basic code : Nat) (w : Writer) (c : Char) : Writer :=
  if c.toNat < code then { w with delta := w.delta + 1 }
  else if c.toNat = code then
    { delta := 0
      bias := adapt w.delta (w.written + 1) (w.written == basic)
      written := w.written + 1
      output := w.output ++ number w.bias 36 w.delta }
  else w

/-- Places all occurrences of the characters `codes`, each later than `next`. -/
def Writer.place (basic : Nat) (label : List Char) : Nat → List Nat → Writer → Writer
  | _, [], w => w
  | next, code :: codes, w =>
    let start := { w with delta := w.delta + (code - next) * (w.written + 1) }
    let done := label.foldl (Writer.pass basic code) start
    place basic label (code + 1) codes { done with delta := done.delta + 1 }

/-- A sorted list with one more code point, unless it has it. -/
def insertCode (code : Nat) : List Nat → List Nat
  | [] => [code]
  | c :: cs =>
    if code < c then code :: c :: cs
    else if code = c then c :: cs
    else c :: insertCode code cs

/-- The code points beyond ASCII in increasing order, each once. -/
def extendedCodes (label : List Char) : List Nat :=
  (label.filter (fun c => 0x80 ≤ c.toNat)).foldr (fun c codes => insertCode c.toNat codes) []

/-- The written form of a label. -/
def encode (label : List Char) : List Char :=
  let basic := label.filter (fun c => c.toNat < 0x80)
  let lead := if basic.isEmpty then [] else basic ++ ['-']
  (Writer.place basic.length label 0x80 (extendedCodes label)
    ⟨0, 72, basic.length, lead⟩).output

/-! ## Reading -/

/-- A reader: the characters placed, the current character and position, the
bias, and the distance being read with the weight and place of its next digit. -/
structure Reader where
  label : List Char
  code : Nat
  index : Nat
  bias : Nat
  start : Nat
  weight : Nat
  place : Nat

/-- One digit. The last of a distance places a character. -/
def Reader.step (r : Reader) (d : Nat) : Option Reader :=
  let index := r.index + d * r.weight
  let t := threshold r.place r.bias
  if d < t then
    let points := r.label.length + 1
    let code := r.code + index / points
    let position := index % points
    if code ≤ 0x10FFFF ∧ ¬ (0xD800 ≤ code ∧ code ≤ 0xDFFF) then
      some
        { label := r.label.take position ++ Char.ofNat code :: r.label.drop position
          code := code
          index := position + 1
          bias := adapt (index - r.start) points (r.start == 0)
          start := position + 1
          weight := 1
          place := 36 }
    else none
  else some { r with index := index, weight := r.weight * (36 - t), place := r.place + 36 }

/-- All digits. A distance must not be left unfinished. -/
def Reader.run : Reader → List Char → Option (List Char)
  | r, [] => if r.place = 36 then some r.label else none
  | r, c :: cs => do
    let d ← digitValue? c
    (← r.step d).run cs

/-- The last hyphen parts the ASCII characters from the digits. -/
def splitLast (text : List Char) : List Char × List Char :=
  let digits := (text.reverse.takeWhile (· != '-')).reverse
  (text.take (text.length - digits.length - 1), digits)

/-- The label of a written form. -/
def decode? (text : List Char) : Option (List Char) :=
  let parts := splitLast text
  if parts.1.all (fun c => c.toNat < 0x80) then
    Reader.run ⟨parts.1, 0x80, 0, 72, 0, 1, 36⟩ parts.2
  else none

example : encode ['b', 'ü', 'c', 'h', 'e', 'r'] = ['b', 'c', 'h', 'e', 'r', '-', 'k', 'v', 'a'] := by
  cbv
example : decode? ['b', 'c', 'h', 'e', 'r', '-', 'k', 'v', 'a'] =
    some ['b', 'ü', 'c', 'h', 'e', 'r'] := by cbv

end LinkDigest.Url.Punycode
