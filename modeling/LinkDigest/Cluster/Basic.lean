import LinkDigest.Corpus.Article
import LinkDigest.Decimal

/-!
# Clusters

A link together with the articles that cite it. An article counts once, and
only ratings of rated feeds enter the average.
-/

namespace LinkDigest

/-- A link and the articles that cite it. -/
structure Cluster where
  /-- The canonical spelling of the link. -/
  url : String
  /-- In the order they were first seen. -/
  articles : List Article
  /-- The sum of the ratings of the rated feeds. -/
  ratingSum : Int
  /-- The number of articles of rated feeds. -/
  ratingCount : Nat
  /-- The title of the page, once it is known. -/
  title : Option String
deriving DecidableEq, Repr

namespace Cluster

/-- A link nobody cites yet. -/
def new (url : String) : Cluster := ⟨url, [], 0, 0, none⟩

/-- Whether an article of the same identifier cites the link. -/
def contains (cluster : Cluster) (article : Article) : Bool :=
  cluster.articles.any fun known => known.id = article.id

/-- With one article more, unless it is known already. -/
def add (cluster : Cluster) (article : Article) : Cluster :=
  if cluster.contains article then cluster
  else
    { cluster with
      articles := cluster.articles ++ [article]
      ratingSum := if article.feed.isRated then cluster.ratingSum + article.feed.rating
        else cluster.ratingSum
      ratingCount := if article.feed.isRated then cluster.ratingCount + 1
        else cluster.ratingCount }

/-- The number of articles. -/
def referenceCount (cluster : Cluster) : Nat := cluster.articles.length

/-- With another title. -/
def withTitle (cluster : Cluster) (title : String) : Cluster :=
  { cluster with title := some title }

/-- The title, or the link where there is none. -/
def displayName (cluster : Cluster) : String := cluster.title.getD cluster.url

@[simp] theorem url_add (cluster : Cluster) (article : Article) :
    (cluster.add article).url = cluster.url := by
  unfold add
  split <;> rfl

theorem contains_add_self (cluster : Cluster) (article : Article) :
    (cluster.add article).contains article := by
  unfold add
  split
  · assumption
  · simp [contains]

theorem add_of_contains {cluster : Cluster} {article : Article} (h : cluster.contains article) :
    cluster.add article = cluster := by
  simp [add, h]

end Cluster

/-- An average of ratings: a sum and how many were added. -/
structure Average where
  sum : Int
  count : Nat
deriving DecidableEq, Repr

namespace Average

/-- The average with so many places; zero where nothing was rated. -/
def render (places : Nat) (average : Average) : List Char :=
  if average.count = 0 then Decimal.fixed places 0 1
  else Decimal.fixed places average.sum average.count

/-- The order of averages, found by multiplying crosswise. Nothing rated counts as zero, and
what is compared with zero is told by the sign of its sum. -/
def compare (a b : Average) : Ordering :=
  match a.count, b.count with
  | 0, 0 => .eq
  | 0, _ => Ord.compare 0 b.sum.sign
  | _, 0 => Ord.compare a.sum.sign 0
  | n, m => Ord.compare (a.sum * m) (b.sum * n)

end Average

/-- The average rating of the feeds that cite a link. -/
def Cluster.average (cluster : Cluster) : Average := ⟨cluster.ratingSum, cluster.ratingCount⟩

end LinkDigest
