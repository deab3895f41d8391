import LinkDigest.Text.Blank
import LinkDigest.Text.Fields
import LinkDigest.Text.Fold

/-!
# Keywords

What a reader does not want to see: pieces of text that a link must hold in
order, on one line, letters of either case alike. A star in a keyword stands
between two pieces for whatever may come between them.
-/

namespace LinkDigest

open LinkDigest.Text

/-- A keyword, cut at its stars. -/
structure Keyword where
  pieces : List (List Char)
deriving DecidableEq, Repr

/-- Why keywords cannot be used. -/
inductive KeywordError where
  /-- A keyword of stars alone, which every link would hold. -/
  | wildcardOnly (keyword : String)
  /-- Too much text in all. -/
  | tooLarge
deriving DecidableEq, Repr

/-- What is wrong with the keywords, in words. -/
def KeywordError.message : KeywordError → String
  | .wildcardOnly keyword =>
    "Invalid ignore keyword '" ++ keyword ++ "': wildcard alone would ignore every link"
  | .tooLarge => "Invalid pattern"

namespace Keyword

/-- What follows a piece that the text begins with. -/
def afterPiece? : List Char → List Char → Option (List Char)
  | [], text => some text
  | _ :: _, [] => none
  | p :: piece, c :: text => if sameFold p c then afterPiece? piece text else none

/-- What follows the first place the piece stands at. -/
def afterFirst? (piece : List Char) : List Char → Option (List Char)
  | [] => afterPiece? piece []
  | c :: text =>
    match afterPiece? piece (c :: text) with
    | some rest => some rest
    | none => afterFirst? piece text

/-- Whether the pieces stand in a text one behind the other. Taking each as early
as it stands leaves the most for the others. -/
def standIn : List (List Char) → List Char → Bool
  | [], _ => true
  | piece :: pieces, text =>
    match afterFirst? piece text with
    | some rest => standIn pieces rest
    | none => false

/-- Whether one line of the text holds the keyword. -/
def occursIn (keyword : Keyword) (text : List Char) : Bool :=
  (fields (· == '\n') text).any (standIn keyword.pieces)

/-- The keyword a text writes. -/
def ofText (text : List Char) : Keyword := ⟨fields (· == '*') text⟩

/-! ## Lists of keywords -/

/-- Marks between keywords. -/
def isSeparator (c : Char) : Bool := c == ',' || c == '\n' || c == '\r'

/-- The keywords of a list as they are written. -/
def written (text : List Char) : List (List Char) :=
  ((fields isSeparator text).map trim).filter (!·.isEmpty)

/-- How much a character of a keyword counts towards the size of a list. -/
def charSize (c : Char) : Nat :=
  if c = '*' then 512 else if c.isAlpha then 48 else 32

/-- The size of written keywords. -/
def size (keywords : List (List Char)) : Nat :=
  keywords.foldl (fun sum keyword => keyword.foldl (fun sum c => sum + charSize c) sum) 0

/-- The greatest size of a list. -/
def maxSize : Nat := 1048576

/-- Whether written keywords are not too large: an estimate. -/
def fits (keywords : List (List Char)) : Bool := size keywords ≤ maxSize

/-- The keywords of a list, by what is not too large. Without any there is nothing to measure. -/
def list? (text : List Char) (fits : List (List Char) → Bool := Keyword.fits) :
    Except KeywordError (List Keyword) :=
  let keywords := written text
  match keywords.find? fun keyword => keyword.all (· == '*') with
  | some keyword => .error (.wildcardOnly (String.ofList keyword))
  | none =>
    if keywords.isEmpty || fits keywords then .ok (keywords.map ofText) else .error .tooLarge

end Keyword

end LinkDigest
