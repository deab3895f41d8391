import LinkDigest.Page.ContentType
import LinkDigest.Page.Error
import LinkDigest.Page.TitleScanner

/-!
# Pages

What answers when an address is opened. The text of a page comes in chunks, of
which no more are read than its title needs.
-/

namespace LinkDigest

/-- What comes after the last chunk of a page. -/
inductive PageEnd where
  /-- The page is over. -/
  | complete
  | failed (error : NetworkError)
  /-- Nothing comes any more, and the page does not end. -/
  | stalled
deriving DecidableEq, Repr

/-- A page that has been opened. -/
structure Page where
  contentType : Option (List Char)
  chunks : List (List UInt8)
  ending : PageEnd
deriving DecidableEq, Repr

/-- What comes of looking for the title of a page. -/
inductive Reading where
  /-- Enough was read; the title, if there is one, and how many bytes it was
  looked for in. -/
  | read (title : Option (List Char)) (consumed : Nat)
  | failed (error : NetworkError)
  /-- The rest of the page does not come. -/
  | stalled
deriving DecidableEq, Repr

namespace Page

/-- Whether the page may have a title. -/
def isHtml (page : Page) : Bool := page.contentType.any ContentType.isHtml

/-- The character set of the page. -/
def charset (page : Page) : Text.Charset := ContentType.charset page.contentType

/-- What a scanner has read. -/
def readingOf (scanner : TitleScanner) : Reading := .read scanner.finish? scanner.consumed

/-- Chunks, read until the scanner has what it needs. -/
def readChunks (scanner : TitleScanner) (ending : PageEnd) : List (List UInt8) → Reading
  | [] =>
    match ending with
    | .complete => readingOf scanner
    | .failed error => .failed error
    | .stalled => .stalled
  | chunk :: rest =>
    let next := scanner.feed chunk
    if next.isDone then readingOf next else readChunks next ending rest

/-- The page, read as far as its title needs. -/
def read (page : Page) (limit : Nat) (indexes : Text.Indexes) : Reading :=
  readChunks (TitleScanner.new limit page.charset indexes) page.ending page.chunks

end Page

/-- What happens when an address is opened. -/
structure Reply where
  /-- Whether the answer comes only when it is released. -/
  isHeld : Bool
  answer : Except NetworkError Page

/-- What happens when any address is opened. -/
abbrev Network := String → Reply

/-- The network if nothing may be fetched. -/
def Network.offline : Network := fun _ => ⟨false, .error .offline⟩

end LinkDigest
