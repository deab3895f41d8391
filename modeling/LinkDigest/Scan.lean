import LinkDigest.Cluster.Ranking
import LinkDigest.Config
import LinkDigest.Corpus.Basic
import LinkDigest.Url.Canonical

/-!
# Scanning

All feeds that keep their articles are walked in order, their recent articles
are asked for links, and each link is counted under its canonical spelling.
-/

namespace LinkDigest

/-- What a scan has counted. -/
structure ScanStats where
  feedsScanned : Nat
  articlesScanned : Nat
  linksSeen : Nat
  /-- Links that have no canonical spelling. -/
  linksSkipped : Nat
  clustersFound : Nat
  /-- Clusters with enough articles. -/
  clustersKept : Nat
deriving DecidableEq, Repr

/-- The outcome of a scan: clusters, the hottest first, and what was counted. -/
structure ScanResult where
  clusters : List Cluster
  stats : ScanStats
deriving DecidableEq, Repr

namespace Scan

/-- What is known part of the way through a scan. -/
structure Tally where
  /-- Clusters in the order they were found; no link twice. -/
  clusters : List Cluster
  feeds : Nat
  articles : Nat
  links : Nat
  skipped : Nat
deriving DecidableEq, Repr

/-- Nothing found yet. -/
def Tally.empty : Tally := ⟨[], 0, 0, 0, 0⟩

/-- An article counted in the cluster of a link, which is new if there is none. -/
def cite (url : String) (article : Article) : List Cluster → List Cluster
  | [] => [(Cluster.new url).add article]
  | cluster :: rest =>
    if cluster.url = url then cluster.add article :: rest
    else cluster :: cite url article rest

/-- The canonical spelling of a link of an article. -/
def target? (article : Article) (link : String) : Option String :=
  (Url.canonicalLink? link.toList (article.baseUrl.map String.toList)).map String.ofList

/-- One link of an article. -/
def visitLink (article : Article) (tally : Tally) (link : String) : Tally :=
  match target? article link with
  | none => { tally with links := tally.links + 1, skipped := tally.skipped + 1 }
  | some url =>
    { tally with links := tally.links + 1, clusters := cite url article tally.clusters }

/-- One article, if it was not published before the cutoff. -/
def visitArticle (cutoff : Instant) (tally : Tally) (article : Article) : Tally :=
  if article.published.Before cutoff then tally
  else article.outboundLinks.foldl (visitLink article)
    { tally with articles := tally.articles + 1 }

/-- One feed, if it keeps its articles. -/
def visitFeed (corpus : Corpus) (cutoff : Instant) (tally : Tally) (feed : Feed) : Tally :=
  if feed.storesHistory then
    (corpus.articles feed).foldl (visitArticle cutoff) { tally with feeds := tally.feeds + 1 }
  else tally

/-- What there is in a corpus from the cutoff on. -/
def tally (corpus : Corpus) (cutoff : Instant) : Tally :=
  corpus.feeds.foldl (visitFeed corpus cutoff) .empty

/-- The clusters with enough articles, and the counts. -/
def Tally.result (tally : Tally) (minReferences : Nat) : ScanResult :=
  let kept := Ranking.rank
    (tally.clusters.filter fun cluster => minReferences ≤ cluster.referenceCount)
  { clusters := kept
    stats := {
      feedsScanned := tally.feeds
      articlesScanned := tally.articles
      linksSeen := tally.links
      linksSkipped := tally.skipped
      clustersFound := tally.clusters.length
      clustersKept := kept.length } }

/-- The earliest time of publication that counts, if there is such a date. -/
def cutoff? (config : ScanConfig) (now : Instant) : Option Instant := do
  let window ← secondsOfDays? config.windowDays
  now.shift? (-window)

/-- The outcome of a scan; none if the cutoff is no date. -/
def run? (config : ScanConfig) (corpus : Corpus) (now : Instant) : Option ScanResult :=
  (cutoff? config now).map fun cutoff => (tally corpus cutoff).result config.minReferences

/-- The share that is done, in percent, rounded down. -/
def percent (done total : Nat) : Nat := if total = 0 then 100 else min 100 (done * 100 / total)

/-- A scan on its way: what it has counted, how many feeds are behind it, and the shares it
has reported, in order. -/
structure Walk where
  tally : Tally
  done : Nat
  reports : List Nat
deriving DecidableEq, Repr

/-- One feed more, and the share done with it is reported. A feed that is passed over is
behind the scan, too. -/
def Walk.pass (corpus : Corpus) (cutoff : Instant) (walk : Walk) (feed : Feed) : Walk where
  tally := visitFeed corpus cutoff walk.tally feed
  done := walk.done + 1
  reports := walk.reports ++ [percent (walk.done + 1) corpus.feeds.length]

/-- The way through a corpus. Where there are no feeds all is done at once. -/
def walk (corpus : Corpus) (cutoff : Instant) : Walk :=
  let final := corpus.feeds.foldl (Walk.pass corpus cutoff) ⟨.empty, 0, [0]⟩
  if corpus.feeds.isEmpty then { final with reports := final.reports ++ [100] } else final

/-- The shares reported on the way: none done, and then one report for each
feed, or one in all if there are no feeds. -/
def progress (feeds : Nat) : List Nat :=
  0 :: if feeds = 0 then [100] else (List.range feeds).map fun done => percent (done + 1) feeds

end Scan

end LinkDigest
