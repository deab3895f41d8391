/-!
# UTF-8

The bytes of a text, and the text of any bytes. Reading never fails: bytes that
are no character become U+FFFD, one for each longest run that could still have
begun a character.
-/

namespace LinkDigest.Text.Utf8

/-- The bytes of a text. -/
def encode (s : List Char) : List UInt8 :=
  s.flatMap String.utf8EncodeChar

/-- A character begun: the value of the bits so far, how many bytes are owed,
and the range in which the next one must lie. -/
structure Pending where
  bits : Nat
  owed : Nat
  low : Nat
  high : Nat
deriving DecidableEq, Repr

/-- Written in place of what is no character. -/
def replacement : Char := '\ufffd'

/-- A byte where no character is begun. -/
def first (byte : Nat) : List Char × Option Pending :=
  if byte < 0x80 then ([Char.ofNat byte], none)
  else if 0xC2 ≤ byte ∧ byte ≤ 0xDF then ([], some ⟨byte - 0xC0, 1, 0x80, 0xBF⟩)
  else if byte = 0xE0 then ([], some ⟨0, 2, 0xA0, 0xBF⟩)
  else if byte = 0xED then ([], some ⟨0xD, 2, 0x80, 0x9F⟩)
  else if 0xE1 ≤ byte ∧ byte ≤ 0xEF then ([], some ⟨byte - 0xE0, 2, 0x80, 0xBF⟩)
  else if byte = 0xF0 then ([], some ⟨0, 3, 0x90, 0xBF⟩)
  else if byte = 0xF4 then ([], some ⟨4, 3, 0x80, 0x8F⟩)
  else if 0xF1 ≤ byte ∧ byte ≤ 0xF3 then ([], some ⟨byte - 0xF0, 3, 0x80, 0xBF⟩)
  else ([replacement], none)

/-- The characters a byte completes and the character it leaves begun. A byte
that cannot continue the one begun ends it and is looked at anew. -/
def step (pending : Option Pending) (byte : Nat) : List Char × Option Pending :=
  match pending with
  | none => first byte
  | some p =>
    if p.low ≤ byte ∧ byte ≤ p.high then
      let bits := p.bits * 64 + (byte - 0x80)
      if p.owed ≤ 1 then ([Char.ofNat bits], none)
      else ([], some ⟨bits, p.owed - 1, 0x80, 0xBF⟩)
    else
      let anew := first byte
      (replacement :: anew.1, anew.2)

/-- The text of the bytes that follow a character begun. -/
def decodeFrom : Option Pending → List UInt8 → List Char
  | none, [] => []
  | some _, [] => [replacement]
  | pending, byte :: rest =>
    let next := step pending byte.toNat
    next.1 ++ decodeFrom next.2 rest

/-- The text of any bytes. -/
def decode (bytes : List UInt8) : List Char := decodeFrom none bytes

/-- The text of bytes that write one; none if some are no character. -/
def decode? (bytes : List UInt8) : Option (List Char) :=
  let text := decode bytes
  if encode text = bytes then some text else none

example : decode [0x43, 0xC3, 0xA9, 0xE2, 0x82, 0x41, 0xF0, 0x9F, 0x98, 0x80] =
    ['C', 'é', '\ufffd', 'A', '😀'] := by decide

@[simp] theorem encode_append (s t : List Char) : encode (s ++ t) = encode s ++ encode t := by
  simp [encode]

end LinkDigest.Text.Utf8
