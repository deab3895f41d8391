import LinkDigest.Text.Hex

/-!
# JSON values

Values as they are written: a number keeps its literal and a string its text
between the quotes, escapes included, so that what nobody asks for need not be
understood. Members of an object keep their order and may repeat a key.
-/

namespace LinkDigest

/-- A JSON value. -/
inductive Json where
  | null
  | bool (value : Bool)
  | number (literal : List Char)
  | string (raw : List Char)
  | array (items : List Json)
  | object (members : List (List Char × Json))
deriving Repr

namespace Json

/-! ## Strings -/

/-- The written form of a character between quotes. -/
def escapeChar (c : Char) : List Char :=
  if c = '"' then ['\\', '"']
  else if c = '\\' then ['\\', '\\']
  else if c = '\x08' then ['\\', 'b']
  else if c = '\x0c' then ['\\', 'f']
  else if c = '\n' then ['\\', 'n']
  else if c = '\r' then ['\\', 'r']
  else if c = '\t' then ['\\', 't']
  else if c.toNat < 0x20 then
    ['\\', 'u', '0', '0', Hex.digit (c.toNat / 16), Hex.digit (c.toNat % 16)]
  else [c]

/-- The written form of a text between quotes. -/
def escape (text : List Char) : List Char := text.flatMap escapeChar

/-- A text as a value. -/
def ofText (text : String) : Json := .string (escape text.toList)

/-- The character a one-letter escape stands for. -/
def unescapeLetter? (c : Char) : Option Char :=
  if c = '"' then some '"'
  else if c = '\\' then some '\\'
  else if c = '/' then some '/'
  else if c = 'b' then some '\x08'
  else if c = 'f' then some '\x0c'
  else if c = 'n' then some '\n'
  else if c = 'r' then some '\r'
  else if c = 't' then some '\t'
  else none

/-- The code of four hexadecimal digits. -/
def unit? (a b c d : Char) : Option Nat := Hex.number? [a, b, c, d]

/-- The text of a written form. Escapes of surrogates must come in pairs. -/
def unescape? : List Char → Option (List Char)
  | [] => some []
  | '\\' :: 'u' :: a :: b :: c :: d :: '\\' :: 'u' :: a' :: b' :: c' :: d' :: rest => do
    let unit ← unit? a b c d
    if 0xD800 ≤ unit ∧ unit ≤ 0xDBFF then
      let low ← unit? a' b' c' d'
      if 0xDC00 ≤ low ∧ low ≤ 0xDFFF then
        return Char.ofNat (0x10000 + (unit - 0xD800) * 0x400 + (low - 0xDC00)) ::
          (← unescape? rest)
      else none
    else if 0xDC00 ≤ unit ∧ unit ≤ 0xDFFF then none
    else return Char.ofNat unit :: (← unescape? ('\\' :: 'u' :: a' :: b' :: c' :: d' :: rest))
  | '\\' :: 'u' :: a :: b :: c :: d :: rest => do
    let unit ← unit? a b c d
    if 0xD800 ≤ unit ∧ unit ≤ 0xDFFF then none
    else return Char.ofNat unit :: (← unescape? rest)
  | '\\' :: letter :: rest => do
    return (← unescapeLetter? letter) :: (← unescape? rest)
  | '\\' :: [] => none
  | c :: rest => do return c :: (← unescape? rest)

/-- The text of a value that is a string. -/
def text? : Json → Option (List Char)
  | .string raw => unescape? raw
  | _ => none

/-! ## Writing -/

/-- Written values with commas between them. -/
def commaSeparated : List (List Char) → List Char
  | [] => []
  | [one] => one
  | one :: rest => one ++ ',' :: commaSeparated rest

mutual

/-- The written form of a value, without blanks. -/
def render : Json → List Char
  | .null => ['n', 'u', 'l', 'l']
  | .bool true => ['t', 'r', 'u', 'e']
  | .bool false => ['f', 'a', 'l', 's', 'e']
  | .number literal => literal
  | .string raw => '"' :: raw ++ ['"']
  | .array items => '[' :: commaSeparated (renderItems items) ++ [']']
  | .object members => '\x7b' :: commaSeparated (renderMembers members) ++ ['\x7d']

/-- The written forms of the items of an array. -/
def renderItems : List Json → List (List Char)
  | [] => []
  | item :: rest => render item :: renderItems rest

/-- The written forms of the members of an object; keys are given in written form. -/
def renderMembers : List (List Char × Json) → List (List Char)
  | [] => []
  | (key, value) :: rest => ('"' :: key ++ '"' :: ':' :: render value) :: renderMembers rest

end

/-- A natural number as a value. -/
def ofNat (n : Nat) : Json := .number (toString n).toList

/-- An integer as a value. -/
def ofInt (n : Int) : Json := .number (toString n).toList

/-- An object of named members. -/
def ofMembers (members : List (String × Json)) : Json :=
  .object (members.map fun member => (escape member.1.toList, member.2))

/-- None as `null`. -/
def ofOption (value : Option Json) : Json := value.getD .null

end Json

end LinkDigest
