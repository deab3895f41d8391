import LinkDigest.Cluster.Basic
import LinkDigest.Filter.Settings
import LinkDigest.Url.Canonical

/-!
# The filter pipeline

Which of the known clusters are shown, and with which of their articles. The
answer depends on the clusters, the settings and the time alone.
-/

namespace LinkDigest

/-- A rule of the caller's own: whether to hide a cluster with the articles it
has left. -/
abbrev Exclusion := Cluster → List Article → Bool

/-- The part of filtering that settings do not change. -/
structure Pipeline where
  /-- Clusters with fewer articles left are hidden. -/
  minReferences : Nat
  exclusions : List Exclusion

/-- A cluster that is shown, with the articles it is shown with. -/
structure VisibleCluster where
  cluster : Cluster
  articles : List Article
deriving DecidableEq, Repr

namespace Filter

/-- Whether an article is too old. -/
def isTooOld (filter : Filter) (now : Instant) (article : Article) : Bool :=
  match filter.time.maxAge? with
  | none => false
  | some age => article.published.Before (now.shift (-(age : Int)))

/-- The host of the place an article stands at. -/
def ownHost? (article : Article) : Option (List Char) :=
  article.baseUrl.bind fun url => Url.hostOf? url.toList

/-- Whether an article links to its own site. -/
def isSelfReference (linkHost : Option (List Char)) (article : Article) : Bool :=
  (ownHost? article).isSome && ownHost? article == linkHost

/-- Whether an article counts for a link with the given host. -/
def articlePasses (filter : Filter) (linkHost : Option (List Char)) (now : Instant)
    (article : Article) : Bool :=
  !(filter.unreadOnly && article.read) &&
  !isTooOld filter now article &&
  !(anyRating < filter.minRating && article.feed.rating < filter.minRating) &&
  !(filter.suppressSelf && isSelfReference linkHost article) &&
  (match filter.guide with
   | none => true
   | some guide => article.feed.belongsTo guide)

end Filter

namespace Pipeline

/-- Without rules of the caller's. -/
def new (minReferences : Nat) : Pipeline := ⟨minReferences, []⟩

/-- With one rule more. -/
def addExclusion (pipeline : Pipeline) (exclusion : Exclusion) : Pipeline :=
  { pipeline with exclusions := pipeline.exclusions ++ [exclusion] }

/-- Without the caller's rules. -/
def clearExclusions (pipeline : Pipeline) : Pipeline := { pipeline with exclusions := [] }

/-- The identifiers of the feeds of articles, each once. -/
def distinctFeeds (articles : List Article) : List Ident :=
  (articles.map fun article => article.feed.id).eraseDups

/-- The articles of a cluster that count. -/
def survivors (filter : Filter) (now : Instant) (cluster : Cluster) : List Article :=
  cluster.articles.filter
    (filter.articlePasses (Url.hostOf? cluster.url.toList) now)

/-- The cluster with the articles it is shown with, if it is shown. -/
def evaluate (pipeline : Pipeline) (filter : Filter) (now : Instant) (cluster : Cluster) :
    Option VisibleCluster :=
  if filter.isIgnored cluster.url.toList then none
  else
    let articles := survivors filter now cluster
    if articles.length < pipeline.minReferences then none
    else if filter.suppressSingleSource && (distinctFeeds articles).length < 2 then none
    else if pipeline.exclusions.any fun exclusion => exclusion cluster articles then none
    else some ⟨cluster, articles⟩

/-- The clusters that are shown, in their order. -/
def apply (pipeline : Pipeline) (filter : Filter) (now : Instant) (clusters : List Cluster) :
    List VisibleCluster :=
  clusters.filterMap (pipeline.evaluate filter now)

/-- Whether the age of some article has to be looked at. -/
def asksForAge (filter : Filter) (clusters : List Cluster) : Bool :=
  filter.time.maxAge?.isSome && clusters.any fun cluster =>
    !filter.isIgnored cluster.url.toList &&
    cluster.articles.any fun article => !(filter.unreadOnly && article.read)

/-- The clusters that are shown; none if ages are asked for and the earliest
time that would do is no date. -/
def visible? (pipeline : Pipeline) (filter : Filter) (now : Instant) (clusters : List Cluster) :
    Option (List VisibleCluster) :=
  let age : Int := (filter.time.maxAge?.getD 0 : Nat)
  if asksForAge filter clusters && !(now.shift (-age)).hasDate then none
  else some (pipeline.apply filter now clusters)

end Pipeline

end LinkDigest
