import LinkDigest.Text.Hex
import LinkDigest.Text.Utf8

/-!
# Percent encoding

Each part of a URL escapes its own set of characters: the bytes of an escaped
character are written as `%` and two hexadecimal digits. No set leaves a
character beyond ASCII as it is.
-/

namespace LinkDigest.Url.Percent

/-- The controls and everything beyond ASCII: escaped in every part. -/
def controls (c : Char) : Bool :=
  c.toNat < 0x20 || 0x7F ≤ c.toNat

/-- What a fragment escapes. -/
def fragmentSet (c : Char) : Bool :=
  controls c || c == ' ' || c == '"' || c == '<' || c == '>' || c == '\x60'

/-- What a path segment escapes. -/
def pathSet (c : Char) : Bool :=
  fragmentSet c || c == '#' || c == '?' || c == '\x7b' || c == '\x7d'

/-- What a user name or password escapes. -/
def userinfoSet (c : Char) : Bool :=
  pathSet c || c == '/' || c == ':' || c == ';' || c == '=' || c == '@' ||
  c == '[' || c == '\\' || c == ']' || c == '^' || c == '|'

/-- What a query escapes. -/
def querySet (c : Char) : Bool :=
  controls c || c == ' ' || c == '"' || c == '#' || c == '<' || c == '>'

/-- What the query of a special scheme escapes. -/
def specialQuerySet (c : Char) : Bool :=
  querySet c || c == '\x27'

/-- The escape of one byte. -/
def escapeByte (byte : UInt8) : List Char :=
  ['%', Hex.upperDigit (byte.toNat / 16), Hex.upperDigit (byte.toNat % 16)]

/-- The written form of one character. -/
def encodeChar (escapes : Char → Bool) (c : Char) : List Char :=
  if escapes c then (String.utf8EncodeChar c).flatMap escapeByte else [c]

/-- The text with the characters of the set escaped. -/
def encode (escapes : Char → Bool) (s : List Char) : List Char :=
  s.flatMap (encodeChar escapes)

/-- The bytes of the text with its escapes undone. A `%` without two digits
after it stands for itself. -/
def decode : List Char → List UInt8
  | [] => []
  | '%' :: a :: b :: rest =>
    match Hex.value? a, Hex.value? b with
    | some x, some y => UInt8.ofNat (x * 16 + y) :: decode rest
    | _, _ => 0x25 :: decode (a :: b :: rest)
  | c :: rest => String.utf8EncodeChar c ++ decode rest

/-- Text without a character to escape stays as it is. -/
theorem encode_eq_self {p : Char → Bool} {s : List Char} (h : ∀ c ∈ s, p c = false) :
    encode p s = s := by
  induction s with
  | nil => rfl
  | cons c cs ih =>
    have hc : encodeChar p c = [c] := by simp [encodeChar, h c (by simp)]
    have hcs := ih (fun d hd => h d (by simp [hd]))
    simp only [encode, List.flatMap_cons] at hcs ⊢
    rw [hc, hcs]
    rfl

example : encode pathSet ['a', ' ', 'é'] = ['a', '%', '2', '0', '%', 'C', '3', '%', 'A', '9'] := by
  decide
example : decode ['%', '4', '1', '%', 'z', 'z'] = [0x41, 0x25, 0x7A, 0x7A] := by decide

end LinkDigest.Url.Percent
