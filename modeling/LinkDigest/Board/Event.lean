import LinkDigest.Cluster.Basic

/-!
# Events

What the reader of results is told: that the list of groups begins anew, which
groups are on it, which articles belong to them, and what has become known of
a group since.
-/

namespace LinkDigest

/-- A group as it is at one moment. -/
structure GroupView where
  seq : Nat
  url : String
  /-- The title of the page, or the link while there is none. -/
  title : String
  isResolved : Bool
  /-- The number of articles that cite the link. -/
  referenceCount : Nat
  /-- The number of articles shown with it. -/
  shownReferences : Nat
  average : Average
deriving DecidableEq, Repr

/-- An article as it is shown in a group. -/
structure ItemView where
  id : Ident
  title : String
  feedTitle : String
  link : Option String
  published : Instant
  read : Bool
deriving DecidableEq, Repr

/-- The article as it is shown. -/
def ItemView.ofArticle (article : Article) : ItemView where
  id := article.id
  title := article.title
  feedTitle := article.feed.title
  link := article.link
  published := article.published
  read := article.read

/-- What the reader of results is told. -/
inductive Event where
  /-- The groups told of so far are no longer shown. -/
  | cleared
  | groupAdded (group : GroupView)
  /-- An article of the group with the number. -/
  | itemAdded (seq : Nat) (item : ItemView)
  /-- The title of a group has become known. -/
  | groupUpdated (group : GroupView)
deriving DecidableEq, Repr

/-- Whether an event tells of something that has become known of a group. -/
def Event.isUpdate : Event → Bool
  | .groupUpdated _ => true
  | .cleared => false
  | .groupAdded _ => false
  | .itemAdded _ _ => false

end LinkDigest
