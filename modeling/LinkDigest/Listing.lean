import LinkDigest.Board.Event
import LinkDigest.Corpus.Basic
import LinkDigest.Json.Record
import LinkDigest.Scan
import LinkDigest.Time.Timestamp

/-!
# Listings

What is known, as JSON for other programs: a corpus with its feeds and
articles, clusters, counts and events. Averages are written with six places.
-/

namespace LinkDigest

/-- A text as it is listed. -/
def Json.chars (value : List Char) : Json := .string (Json.escape value)

/-- Texts as they are listed. -/
def Json.texts (values : List String) : Json := .array (values.map .ofText)

/-- A text that may be missing. -/
def Json.textOrNull (value : Option String) : Json := .ofOption (value.map .ofText)

/-- An identifier; only written ones are listed. -/
def Ident.toJson : Ident → Json
  | .written uuid => .chars uuid.render
  | .issued _ => .null

/-- An article, with its identifier if that is asked for. -/
def Article.toJson (withId : Bool) (article : Article) : Json :=
  .ofMembers ((if withId then [("id", article.id.toJson)] else []) ++ [
    ("title", .ofText article.title), ("feed", .ofText article.feed.title),
    ("link", .textOrNull article.link),
    ("published", .chars (Timestamp.render article.published)),
    ("read", .bool article.read), ("links", .texts article.links),
    ("text", .textOrNull article.text), ("outbound", .texts article.outboundLinks),
    ("base", .textOrNull article.baseUrl)])

/-- A feed with its articles. -/
def Feed.toJson (withId : Bool) (articles : List Article) (feed : Feed) : Json :=
  .ofMembers ((if withId then [("id", feed.id.toJson)] else []) ++ [
    ("title", .ofText feed.title), ("site_url", .textOrNull feed.siteUrl),
    ("rating", .ofInt feed.rating), ("guides", .texts feed.guides),
    ("stores_history", .bool feed.storesHistory), ("rated", .bool feed.isRated),
    ("articles", .array (articles.map (Article.toJson withId)))])

/-- A corpus with its feeds. -/
def Corpus.toJson (withIds : Bool) (corpus : Corpus) : Json :=
  .ofMembers [
    ("feeds", .array (corpus.feeds.map fun feed =>
      feed.toJson withIds (corpus.articles feed))),
    ("article_count", .ofNat corpus.articleCount)]

/-- An average. -/
def Average.toJson (average : Average) : Json := .chars (average.render 6)

/-- The fields of a cluster. -/
def Cluster.members (cluster : Cluster) : List (String × Json) := [
  ("url", .ofText cluster.url), ("references", .ofNat cluster.referenceCount),
  ("cumulative_rating", .ofInt cluster.ratingSum), ("ratings_count", .ofNat cluster.ratingCount),
  ("average_rating", cluster.average.toJson),
  ("articles", .texts (cluster.articles.map Article.title))]

def Cluster.toJson (cluster : Cluster) : Json := .ofMembers cluster.members

def ScanStats.toJson (stats : ScanStats) : Json :=
  .ofMembers [
    ("feeds_scanned", .ofNat stats.feedsScanned),
    ("articles_scanned", .ofNat stats.articlesScanned), ("links_seen", .ofNat stats.linksSeen),
    ("links_skipped", .ofNat stats.linksSkipped),
    ("clusters_found", .ofNat stats.clustersFound), ("clusters_kept", .ofNat stats.clustersKept)]

def GroupView.toJson (view : GroupView) : Json :=
  .ofMembers [
    ("seq", .ofNat view.seq), ("url", .ofText view.url), ("title", .ofText view.title),
    ("resolved", .bool view.isResolved), ("reference_count", .ofNat view.referenceCount),
    ("shown_references", .ofNat view.shownReferences), ("average_rating", view.average.toJson)]

/-- The fields of an article as it is shown. -/
def ItemView.members (item : ItemView) : List (String × Json) := [
  ("title", .ofText item.title), ("feed_title", .ofText item.feedTitle),
  ("link", .textOrNull item.link), ("read", .bool item.read)]

/-- An event under its name. -/
def Event.toJson : Event → Json
  | .cleared => .ofMembers [("event", .ofText "cleared")]
  | .groupAdded view => .ofMembers [("event", .ofText "group_added"), ("group", view.toJson)]
  | .itemAdded seq item => .ofMembers [("event", .ofText "item_added"), ("seq", .ofNat seq),
      ("item", .ofMembers item.members)]
  | .groupUpdated view => .ofMembers [("event", .ofText "group_updated"), ("group", view.toJson)]

end LinkDigest
