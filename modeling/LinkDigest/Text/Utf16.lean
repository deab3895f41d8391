/-!
# UTF-16

The text of bytes taken two at a time. A surrogate without its partner and a
byte left over become U+FFFD.
-/

namespace LinkDigest.Text.Utf16

/-- The units of a run of bytes; the second part tells whether a byte is left over. -/
def units (highFirst : Bool) : List UInt8 → List Nat × Bool
  | a :: b :: rest =>
    let unit := if highFirst then a.toNat * 256 + b.toNat else b.toNat * 256 + a.toNat
    let more := units highFirst rest
    (unit :: more.1, more.2)
  | [_] => ([], true)
  | [] => ([], false)

/-- Whether a unit begins a pair. -/
def isLead (unit : Nat) : Bool := 0xD800 ≤ unit && unit ≤ 0xDBFF

/-- Whether a unit ends a pair. -/
def isTrail (unit : Nat) : Bool := 0xDC00 ≤ unit && unit ≤ 0xDFFF

/-- The text of units that follow a lead surrogate, if there was one. -/
def textFrom : Option Nat → List Nat → List Char
  | none, [] => []
  | some _, [] => ['\ufffd']
  | none, unit :: rest =>
    if isLead unit then textFrom (some unit) rest
    else if isTrail unit then '\ufffd' :: textFrom none rest
    else Char.ofNat unit :: textFrom none rest
  | some lead, unit :: rest =>
    if isTrail unit then
      Char.ofNat (0x10000 + (lead - 0xD800) * 0x400 + (unit - 0xDC00)) :: textFrom none rest
    else if isLead unit then '\ufffd' :: textFrom (some unit) rest
    else '\ufffd' :: Char.ofNat unit :: textFrom none rest

/-- Whether a run of units ends in a lead surrogate. -/
def endsInLead (units : List Nat) : Bool :=
  match units.getLast? with
  | some unit => isLead unit
  | none => false

/-- The text of any bytes. A lead surrogate and a byte left over at the end are
one fault. -/
def decode (highFirst : Bool) (bytes : List UInt8) : List Char :=
  let read := units highFirst bytes
  let text := textFrom none read.1
  if read.2 && !endsInLead read.1 then text ++ ['\ufffd'] else text

example : decode false [0x3D, 0xD8, 0x41, 0] = ['\ufffd', 'A'] := by decide
example : decode true [0xD8, 0x3D, 0xDE, 0, 0x41] = ['😀', '\ufffd'] := by decide

end LinkDigest.Text.Utf16
