import LinkDigest.Json.Number

/-!
# JSON tokens

A text is read one character at a time. A token that has begun ends at the
first character that cannot belong to it.
-/

namespace LinkDigest.Json

/-- The tokens of a JSON text. -/
inductive Token where
  | openArray
  | closeArray
  | openObject
  | closeObject
  | comma
  | colon
  | null
  | bool (value : Bool)
  | number (literal : List Char)
  | string (raw : List Char)
deriving DecidableEq, Repr

/-- Where the reader stands. What has been read of a token is kept in reverse. -/
inductive Token.Reader where
  | between
  | inWord (read : List Char)
  | inNumber (read : List Char)
  | inString (read : List Char)
  /-- Behind a backslash. -/
  | inEscape (read : List Char)
  /-- In a numeric escape, with so many digits to come. -/
  | inUnit (owed : Nat) (read : List Char)
deriving DecidableEq, Repr

namespace Token

/-- Blanks between tokens. -/
def isBlank (c : Char) : Bool := c == ' ' || c == '\n' || c == '\t' || c == '\r'

/-- Characters a number may go on with. -/
def isNumberChar (c : Char) : Bool :=
  c.isDigit || c == '-' || c == '+' || c == '.' || c == 'e' || c == 'E'

/-- The token of a word. -/
def ofWord? (word : List Char) : Option Token :=
  if word = ['n', 'u', 'l', 'l'] then some .null
  else if word = ['t', 'r', 'u', 'e'] then some (.bool true)
  else if word = ['f', 'a', 'l', 's', 'e'] then some (.bool false)
  else none

/-- The token of a number. -/
def ofNumber? (literal : List Char) : Option Token :=
  if (Number.parts? literal).isSome then some (.number literal) else none

/-- A character between tokens. -/
def start (c : Char) : Option (List Token × Reader) :=
  if isBlank c then some ([], .between)
  else if c = '[' then some ([.openArray], .between)
  else if c = ']' then some ([.closeArray], .between)
  else if c = '\x7b' then some ([.openObject], .between)
  else if c = '\x7d' then some ([.closeObject], .between)
  else if c = ',' then some ([.comma], .between)
  else if c = ':' then some ([.colon], .between)
  else if c = '"' then some ([], .inString [])
  else if c = '-' ∨ c.isDigit then some ([], .inNumber [c])
  else if c.isAlpha then some ([], .inWord [c])
  else none

/-- A finished token before a character that begins the next one. -/
def thenStart (token : Option Token) (c : Char) : Option (List Token × Reader) := do
  let done ← token
  let (tokens, reader) ← start c
  return (done :: tokens, reader)

/-- The tokens a character completes and where it leaves the reader. -/
def step (reader : Reader) (c : Char) : Option (List Token × Reader) :=
  match reader with
  | .between => start c
  | .inWord read =>
    if c.isAlpha then some ([], .inWord (c :: read)) else thenStart (ofWord? read.reverse) c
  | .inNumber read =>
    if isNumberChar c then some ([], .inNumber (c :: read))
    else thenStart (ofNumber? read.reverse) c
  | .inString read =>
    if c = '"' then some ([.string read.reverse], .between)
    else if c = '\\' then some ([], .inEscape (c :: read))
    else if c.toNat < 0x20 then none
    else some ([], .inString (c :: read))
  | .inEscape read =>
    if c = 'u' then some ([], .inUnit 4 (c :: read))
    else if (unescapeLetter? c).isSome then some ([], .inString (c :: read))
    else none
  | .inUnit owed read =>
    if (Hex.value? c).isSome then
      some ([], if owed ≤ 1 then .inString (c :: read) else .inUnit (owed - 1) (c :: read))
    else none

/-- The token that the end of the text completes. -/
def finish : Reader → Option (List Token)
  | .between => some []
  | .inWord read => (ofWord? read.reverse).map fun token => [token]
  | .inNumber read => (ofNumber? read.reverse).map fun token => [token]
  | _ => none

/-- The tokens of what follows, behind those in `done`, which come last first. -/
def readFrom (done : List Token) : Reader → List Char → Option (List Token)
  | reader, [] => (finish reader).map fun tokens => done.reverse ++ tokens
  | reader, c :: rest =>
    match step reader c with
    | none => none
    | some (tokens, next) => readFrom (tokens.reverse ++ done) next rest

/-- The tokens of a text. -/
def read? (text : List Char) : Option (List Token) := readFrom [] .between text

end Token

end LinkDigest.Json
