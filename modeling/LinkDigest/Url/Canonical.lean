import LinkDigest.Text.Lowercase
import LinkDigest.Url.Parse

/-!
# Canonical links

The one spelling under which all links to a page are counted: lower case
throughout, resolved against the place the link stands at, and without slashes
at the end. Only links to the web have one.
-/

namespace LinkDigest.Url

open LinkDigest.Text

/-- The text without the slashes at its end. -/
def dropSlashes (text : List Char) : List Char := dropTrailing (· == '/') text

/-- A link as it is read: without blanks around it, in lower case, without
slashes at its end. -/
def cleanLink (link : List Char) : List Char := dropSlashes (lowercase (trim link))

/-- The canonical spelling of a URL of the web. Slashes at the end of a query
or fragment are part of it and stay. -/
def canonical? (url : Url) : Option (List Char) :=
  if url.isWeb ∧ url.hostText?.isSome then
    let written := asciiLowercase url.render
    some (if url.query.isNone ∧ url.fragment.isNone then dropSlashes written else written)
  else none

/-- The URL a place is read as, if it can be read. -/
def place? (text : List Char) : Option Url := parse? none (trim text)

/-- The canonical spelling of a link that stands at `place`. A place that
cannot be read counts as none, and then only absolute links have a spelling. -/
def canonicalLink? (link : List Char) (place : Option (List Char)) : Option (List Char) :=
  let cleaned := cleanLink link
  if cleaned.isEmpty then none
  else (parse? (place.bind place?) cleaned).bind canonical?

/-- The host of a URL, in lower case. -/
def hostOf? (text : List Char) : Option (List Char) :=
  ((place? text).bind hostText?).map lowercase

end LinkDigest.Url
