import LinkDigest.Corpus.Article

/-!
# The corpus

All feeds with their articles. A feed may have been added more than once: the
articles of an identifier are those kept under the first feed that has it.
-/

namespace LinkDigest

/-- A feed with the articles kept under it. -/
structure Shelf where
  feed : Feed
  articles : List Article
deriving DecidableEq, Repr

/-- Feeds with their articles, in the order they were added. -/
structure Corpus where
  shelves : List Shelf
deriving DecidableEq, Repr

namespace Corpus

/-- Without feeds. -/
def empty : Corpus := ⟨[]⟩

/-- With one feed more, which has no articles yet. -/
def addFeed (corpus : Corpus) (feed : Feed) : Corpus :=
  ⟨corpus.shelves ++ [⟨feed, []⟩]⟩

/-- An article put on the first shelf of its feed, or on a new one. -/
def shelve (article : Article) : List Shelf → List Shelf
  | [] => [⟨article.feed, [article]⟩]
  | shelf :: rest =>
    if shelf.feed.id = article.feed.id then
      { shelf with articles := shelf.articles ++ [article] } :: rest
    else shelf :: shelve article rest

/-- With one article more. -/
def addArticle (corpus : Corpus) (article : Article) : Corpus :=
  ⟨shelve article corpus.shelves⟩

/-- The feeds in order. -/
def feeds (corpus : Corpus) : List Feed := corpus.shelves.map Shelf.feed

/-- The articles of a feed. -/
def articles (corpus : Corpus) (feed : Feed) : List Article :=
  match corpus.shelves.find? fun shelf => shelf.feed.id = feed.id with
  | some shelf => shelf.articles
  | none => []

/-- The number of articles. -/
def articleCount (corpus : Corpus) : Nat :=
  (corpus.shelves.flatMap Shelf.articles).length

/-- An article goes on exactly one shelf. -/
theorem length_flatMap_shelve (article : Article) (shelves : List Shelf) :
    ((shelve article shelves).flatMap Shelf.articles).length =
      (shelves.flatMap Shelf.articles).length + 1 := by
  induction shelves with
  | nil => rfl
  | cons shelf rest ih =>
    simp only [shelve, List.flatMap_cons, List.length_append]
    split
    · simp only [List.flatMap_cons, List.length_append, List.length_cons, List.length_nil]
      omega
    · simp only [List.flatMap_cons, List.length_append, ih]
      omega

@[simp] theorem articleCount_addArticle (corpus : Corpus) (article : Article) :
    (corpus.addArticle article).articleCount = corpus.articleCount + 1 :=
  length_flatMap_shelve article corpus.shelves

@[simp] theorem articleCount_addFeed (corpus : Corpus) (feed : Feed) :
    (corpus.addFeed feed).articleCount = corpus.articleCount := by
  simp [addFeed, articleCount]

end Corpus

end LinkDigest
