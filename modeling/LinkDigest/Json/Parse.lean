import LinkDigest.Json.Token

/-!
# Reading JSON

A value is read token by token. What is not yet closed is kept as a stack of
frames, so the depth of a text has no limit.
-/

namespace LinkDigest.Json

/-- An array or object not yet closed. What it holds comes last first. -/
inductive Frame where
  | array (items : List Json)
  | object (members : List (List Char × Json)) (key : List Char)
deriving Repr

/-- What the reader waits for. -/
inductive Parser where
  /-- A value. -/
  | value (stack : List Frame)
  /-- The first item of an array, or its end. -/
  | itemOrEnd (stack : List Frame)
  /-- The first key of an object, or its end. -/
  | keyOrEnd (stack : List Frame)
  /-- A key. -/
  | key (stack : List Frame) (members : List (List Char × Json))
  /-- The colon behind a key. -/
  | colon (stack : List Frame) (members : List (List Char × Json)) (key : List Char)
  /-- What goes on after a value: a comma or an end, or nothing if the stack is empty. -/
  | after (value : Json) (stack : List Frame)
deriving Repr

namespace Parser

/-- A token where a value is due. -/
def onValue (stack : List Frame) : Token → Option Parser
  | .null => some (.after .null stack)
  | .bool b => some (.after (.bool b) stack)
  | .number literal => some (.after (.number literal) stack)
  | .string raw => some (.after (.string raw) stack)
  | .openArray => some (.itemOrEnd stack)
  | .openObject => some (.keyOrEnd stack)
  | _ => none

/-- One token. -/
def step (parser : Parser) (token : Token) : Option Parser :=
  match parser, token with
  | .value stack, token => onValue stack token
  | .itemOrEnd stack, .closeArray => some (.after (.array []) stack)
  | .itemOrEnd stack, token => onValue (.array [] :: stack) token
  | .keyOrEnd stack, .closeObject => some (.after (.object []) stack)
  | .keyOrEnd stack, .string raw => some (.colon stack [] raw)
  | .key stack members, .string raw => some (.colon stack members raw)
  | .colon stack members name, .colon => some (.value (.object members name :: stack))
  | .after item (.array items :: stack), .comma =>
    some (.value (.array (item :: items) :: stack))
  | .after item (.array items :: stack), .closeArray =>
    some (.after (.array (item :: items).reverse) stack)
  | .after item (.object members name :: stack), .comma =>
    some (.key stack ((name, item) :: members))
  | .after item (.object members name :: stack), .closeObject =>
    some (.after (.object ((name, item) :: members).reverse) stack)
  | _, _ => none

/-- All tokens in turn. -/
def run (parser : Parser) : List Token → Option Parser
  | [] => some parser
  | token :: rest =>
    match parser.step token with
    | none => none
    | some next => next.run rest

/-- The value read, if nothing is left open. -/
def result? : Parser → Option Json
  | .after item [] => some item
  | _ => none

theorem run_append (p : Parser) (xs ys : List Token) :
    p.run (xs ++ ys) = (p.run xs).bind (·.run ys) := by
  induction xs generalizing p with
  | nil => rfl
  | cons x xs ih =>
    simp only [List.cons_append, run]
    cases p.step x with
    | none => rfl
    | some next => exact ih next

end Parser

/-- The value of tokens. -/
def ofTokens? (tokens : List Token) : Option Json :=
  ((Parser.value []).run tokens).bind Parser.result?

/-- The value a text writes, with nothing but blanks around it. -/
def parse? (text : List Char) : Option Json :=
  (Token.read? text).bind ofTokens?

end LinkDigest.Json
