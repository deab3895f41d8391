import LinkDigest.Corpus.Basic
import LinkDigest.Json.Parse
import LinkDigest.Json.Record
import LinkDigest.Time.Timestamp

/-!
# Corpus documents

The written form of a corpus: feeds with their articles inside them. Whatever
has no identifier of its own is given its place in the document as one.
-/

namespace LinkDigest.Corpus

/-- An article as a document writes it. -/
structure ArticleEntry where
  id : Option Uuid
  title : String
  link : Option String
  published : Instant
  read : Bool
  links : List String
  text : Option String
deriving Repr

/-- A feed as a document writes it. -/
structure FeedEntry where
  id : Option Uuid
  title : String
  siteUrl : Option String
  rating : Int
  guides : List String
  storesHistory : Bool
  articles : List ArticleEntry
deriving Repr

/-- An identifier in JSON. -/
def uuid? (value : Json) : Option Uuid := value.text?.bind Uuid.parse?

/-- An instant in JSON. -/
def instant? (value : Json) : Option Instant := value.text?.bind Timestamp.parse?

/-- The fields of an article. -/
def ArticleEntry.names : List String :=
  ["id", "title", "link", "published", "read", "links", "text"]

/-- An article in JSON. Only the time of publication must be there. -/
def ArticleEntry.ofJson? (value : Json) : Option ArticleEntry := do
  match ← Json.fields? names value with
  | [id, title, link, published, read, links, text] =>
    return {
      id := ← Json.orDefault none (fun v => (uuid? v).map some) id
      title := ← Json.orDefault "" Json.string? title
      link := ← Json.orDefault none (Json.nullable Json.string?) link
      published := ← Json.required instant? published
      read := ← Json.orDefault false Json.bool? read
      links := ← Json.orDefault [] (Json.list? Json.string?) links
      text := ← Json.orDefault none (Json.nullable Json.string?) text }
  | _ => none

/-- How deep the values of a feed may be, its articles apart. -/
def feedDepth : Nat := 124

/-- The fields of a feed. -/
def FeedEntry.names : List String :=
  ["id", "title", "site_url", "rating", "guides", "stores_history", "articles"]

/-- A feed in JSON, which is always an object. Its values are kept before it is
known which of them matter, all but the articles. -/
def FeedEntry.ofJson? (value : Json) : Option FeedEntry := do
  match value with
  | .object members =>
    let named ← Json.namedMembers? members
    let kept := named.filter fun member => member.1 != "articles".toList
    if !kept.all fun member => Json.isStorable feedDepth member.2 then none
    match ← names.mapM (Json.member? named) with
    | [id, title, siteUrl, rating, guides, storesHistory, articles] =>
      return {
        id := ← Json.orDefault none (fun v => (uuid? v).map some) id
        title := ← Json.orDefault "" Json.string? title
        siteUrl := ← Json.orDefault none (Json.nullable Json.string?) siteUrl
        rating := ← Json.orDefault Feed.unrated Json.int32? rating
        guides := ← Json.orDefault [] (Json.list? Json.string?) guides
        storesHistory := ← Json.orDefault true Json.bool? storesHistory
        articles := ← Json.orDefault [] (Json.list? ArticleEntry.ofJson?) articles }
    | _ => none
  | _ => none

/-- The feeds of a document in JSON. -/
def entries? (value : Json) : Option (List FeedEntry) := do
  match ← Json.fields? ["feeds"] value with
  | [feeds] => Json.required (Json.list? FeedEntry.ofJson?) feeds
  | _ => none

/-- The written identifier, or else the place. -/
def identOf (id : Option Uuid) (place : List Nat) : Ident :=
  match id with
  | some uuid => .written uuid
  | none => .issued place

/-- The feed of an entry. -/
def FeedEntry.feed (entry : FeedEntry) (index : Nat) : Feed where
  id := identOf entry.id [index]
  title := entry.title
  siteUrl := entry.siteUrl
  rating := entry.rating
  guides := entry.guides
  storesHistory := entry.storesHistory

/-- The article of an entry. -/
def ArticleEntry.article (entry : ArticleEntry) (feed : Feed) (place : List Nat) : Article where
  id := identOf entry.id place
  title := entry.title
  feed := feed
  link := entry.link
  published := entry.published
  read := entry.read
  links := entry.links
  text := entry.text

/-- A corpus with a feed more and the articles of its entry. -/
def addEntry (corpus : Corpus) (entry : FeedEntry) (index : Nat) : Corpus :=
  let feed := entry.feed index
  entry.articles.zipIdx.foldl
    (fun corpus item => corpus.addArticle (item.1.article feed [index, item.2]))
    (corpus.addFeed feed)

/-- The corpus of entries. -/
def ofEntries (entries : List FeedEntry) : Corpus :=
  entries.zipIdx.foldl (fun corpus item => corpus.addEntry item.1 item.2) empty

/-- The corpus a text writes. -/
def parse? (text : List Char) : Option Corpus :=
  ((Json.parse? text).bind entries?).map ofEntries

end LinkDigest.Corpus
