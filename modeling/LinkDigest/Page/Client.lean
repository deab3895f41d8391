import LinkDigest.Page.Basic
import LinkDigest.Url.Parse

/-!
# The client

How pages are asked for. The client names itself in a header, which not every
text can stand in.
-/

namespace LinkDigest

/-- Whether a text can stand in a header: no control characters but the tab. -/
def isHeaderText (text : List Char) : Bool :=
  text.all fun c => c == '\t' || (0x20 ≤ c.toNat && c.toNat != 0x7F)

/-- The network from a place where nothing answers: a text that is no URL is
told from one that is. -/
def Network.unreachable : Network := fun url =>
  let error := if (Url.parse? none url.toList).isSome then .noAnswer else .invalidUrl url
  ⟨false, .error error⟩

/-- The network as a client sees it that gives itself a name; none if it is no
name for a client. -/
def Network.ofClient? (userAgent : String) : Option Network :=
  if isHeaderText userAgent.toList then some .unreachable else none

end LinkDigest
