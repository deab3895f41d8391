import LinkDigest.Text.Fields
import LinkDigest.Text.Hex

/-!
# IPv6 addresses

Eight pieces in hexadecimal. One run of zero pieces may be left out, and the
last two pieces may be written as four bytes in decimal. Written, the first
longest run of at least two zero pieces is left out.
-/

namespace LinkDigest.Url.Ipv6

/-- One piece: one to four hexadecimal digits. -/
def piece? (field : List Char) : Option Nat :=
  if field.isEmpty ∨ field.length > 4 then none else Hex.number? field

/-- One byte in decimal, without leading zeros. -/
def byte? (field : List Char) : Option Nat :=
  if field.all Char.isDigit then
    match field with
    | [] => none
    | '0' :: _ :: _ => none
    | _ =>
      let value := field.foldl (fun n c => n * 10 + (c.toNat - 48)) 0
      if field.length ≤ 3 ∧ value ≤ 255 then some value else none
  else none

/-- Four bytes as two pieces. -/
def dotted? (field : List Char) : Option (List Nat) :=
  match (Text.fields (· == '.') field).map byte? with
  | [some a, some b, some c, some d] => some [a * 256 + b, c * 256 + d]
  | _ => none

/-- The pieces of fields, of which the last may be dotted if `allowDotted`. -/
def pieces? (allowDotted : Bool) : List (List Char) → Option (List Nat)
  | [] => some []
  | [field] =>
    match piece? field with
    | some p => some [p]
    | none => if allowDotted then dotted? field else none
  | field :: rest => do
    let p ← piece? field
    return p :: (← pieces? allowDotted rest)

/-- The pieces of a text, colon by colon; the empty text has none. -/
def side? (allowDotted : Bool) (text : List Char) : Option (List Nat) :=
  if text.isEmpty then some [] else pieces? allowDotted (Text.fields (· == ':') text)

/-- The texts before and after the first double colon. -/
def splitGap : List Char → Option (List Char × List Char)
  | [] => none
  | ':' :: ':' :: rest => some ([], rest)
  | c :: rest => (splitGap rest).map fun parts => (c :: parts.1, parts.2)

/-- The eight pieces of an address. -/
def parse? (text : List Char) : Option (List Nat) :=
  match splitGap text with
  | none => do
    let pieces ← side? true text
    if pieces.length = 8 then some pieces else none
  | some (before, after) => do
    let left ← side? false before
    let right ← side? true after
    let given := left.length + right.length
    if given ≤ 7 then some (left ++ List.replicate (8 - given) 0 ++ right) else none

/-- The length of the run of zero pieces that begins here. -/
def zeroRun (pieces : List Nat) : Nat := (pieces.takeWhile (· == 0)).length

/-- The first longest run of zero pieces, as its place and length; `index` is
the place of the first piece given. -/
def longestZeroRun : Nat → List Nat → Nat × Nat
  | _, [] => (0, 0)
  | index, p :: ps =>
    let here := zeroRun (p :: ps)
    let later := longestZeroRun (index + 1) ps
    if here ≥ later.2 then (index, here) else later

/-- Pieces with colons between them. -/
def joined (pieces : List Nat) : List Char :=
  [':'].intercalate (pieces.map Hex.digits)

/-- The address, its first longest run of two or more zero pieces left out. -/
def render (pieces : List Nat) : List Char :=
  let run := longestZeroRun 0 pieces
  if run.2 ≥ 2 then
    joined (pieces.take run.1) ++ [':', ':'] ++ joined (pieces.drop (run.1 + run.2))
  else joined pieces

example : parse? "1::2:1.2.3.4".toList = some [1, 0, 0, 0, 0, 2, 0x102, 0x304] := by
  decide +kernel
example : String.ofList (render [1, 0, 0, 2, 0, 0, 0, 3]) = "1:0:0:2::3" := by cbv
example : String.ofList (render [0, 0, 0, 0, 0, 0, 0, 0]) = "::" := by cbv

end LinkDigest.Url.Ipv6
