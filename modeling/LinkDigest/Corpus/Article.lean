import LinkDigest.Anchor
import LinkDigest.Ident
import LinkDigest.Time.Instant

/-!
# Feeds and articles

What the reader has subscribed to, and what was published there.
-/

namespace LinkDigest

/-- A subscribed feed. -/
structure Feed where
  id : Ident
  title : String
  /-- The home page, which stands in for articles without a link of their own. -/
  siteUrl : Option String
  /-- The reader's rating; `Feed.unrated` if there is none. -/
  rating : Int
  /-- The guides the feed belongs to. -/
  guides : List String
  /-- Only feeds that keep their articles are scanned. -/
  storesHistory : Bool
deriving DecidableEq, Repr

namespace Feed

/-- The rating of a feed that has none. -/
def unrated : Int := -1

/-- Whether the reader has rated the feed. -/
def isRated (feed : Feed) : Bool := feed.rating != unrated

/-- Whether the feed belongs to a guide. -/
def belongsTo (feed : Feed) (guide : String) : Bool := feed.guides.contains guide

end Feed

/-- An article of a feed. -/
structure Article where
  id : Ident
  title : String
  feed : Feed
  /-- The link of the article itself. -/
  link : Option String
  published : Instant
  read : Bool
  /-- The links of the article; if there are none they are taken from the text. -/
  links : List String
  text : Option String
deriving DecidableEq, Repr

namespace Article

/-- The links the article points at, in the order of the article. -/
def outboundLinks (article : Article) : List String :=
  if article.links.isEmpty then
    match article.text with
    | none => []
    | some text => (Anchor.links text.toList).map String.ofList
  else article.links

/-- The place relative links of the article start from. -/
def baseUrl (article : Article) : Option String :=
  article.link.or article.feed.siteUrl

end Article

end LinkDigest
