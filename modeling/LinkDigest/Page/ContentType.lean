import LinkDigest.Text.Charset
import LinkDigest.Text.Lowercase
import LinkDigest.Text.Search

/-!
# Content types

What a page says about itself: whether it is a document with a title, and
which character set it is written in.
-/

namespace LinkDigest.ContentType

open LinkDigest.Text

/-- Whether the page is a document with markup. -/
def isHtml (contentType : List Char) : Bool :=
  holds "text/html".toList (asciiLowercase contentType)

/-- The mark before the name of a character set. -/
def charsetMark : List Char := "charset=".toList

/-- Quotes a name may stand in. -/
def isQuote (c : Char) : Bool := c == '"' || c == '\x27'

/-- What ends a name. -/
def endsLabel (c : Char) : Bool := isQuote c || c == ';' || c == ',' || c == ' '

/-- The name of the character set: what stands between the first mark and the
next, without quotes before it, up to what ends a name. -/
def label? (contentType : List Char) : Option (List Char) :=
  match cut? charsetMark (asciiLowercase contentType) with
  | none => none
  | some (_, rest) =>
    let stretch := match cut? charsetMark rest with
      | some (before, _) => before
      | none => rest
    let name := trim ((stretch.dropWhile isQuote).takeWhile (!endsLabel ·))
    if name.isEmpty then none else some name

/-- The character set of a page; UTF-8 where none is named or the name is unknown. -/
def charset (contentType : Option (List Char)) : Charset :=
  ((contentType.bind label?).bind fun label => Charset.ofLabel? (String.ofList label)).getD .utf8

end LinkDigest.ContentType
