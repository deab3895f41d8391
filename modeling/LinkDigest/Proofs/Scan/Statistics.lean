import LinkDigest.Proofs.Scan.Aggregation
import Mathlib.Data.Finset.Card
import Mathlib.Data.Finset.Dedup
import Mathlib.Data.List.Nodup

/-!
# What a scan counts

The counts of a scan are those of the feeds, articles and links it meets. A cluster counts an
identifier once, so the clusters hold as many articles as there are pairs of a canonical link
and an identifier, and that is the number of links that count unless a pair comes twice.
-/

namespace LinkDigest.Scan

/-! ## The reference -/

/-- The links of the recent articles, each with its article, in the order of the scan. -/
def seen (corpus : Corpus) (cutoff : Instant) : List (Article × String) :=
  (scope corpus cutoff).flatMap fun article =>
    article.outboundLinks.map fun link => (article, link)

/-- Whether a link has no canonical spelling where it stands. -/
def isSkipped (link : Article × String) : Bool := (target? link.1 link.2).isNone

/-- The links that count, each as its canonical spelling with the identifier of its article. -/
def pairs (corpus : Corpus) (cutoff : Instant) : List (String × Ident) :=
  (citations corpus cutoff).map fun citation => (citation.1, citation.2.id)

/-- What the counts of a scan have to be. -/
structure Reconciles (corpus : Corpus) (cutoff : Instant) (minReferences : Nat)
    (result : ScanResult) : Prop where
  feedsScanned : result.stats.feedsScanned = (corpus.feeds.filter Feed.storesHistory).length
  articlesScanned : result.stats.articlesScanned = (scope corpus cutoff).length
  linksSeen : result.stats.linksSeen = (seen corpus cutoff).length
  linksSkipped : result.stats.linksSkipped = ((seen corpus cutoff).filter isSkipped).length
  /-- The links found are different canonical spellings of those that are not skipped. -/
  clustersFound : result.stats.clustersFound =
    (((seen corpus cutoff).filterMap fun link => target? link.1 link.2).toFinset).card
  clustersKept : result.stats.clustersKept = result.clusters.length
  references_le : minReferences ≤ 1 → (result.clusters.map Cluster.referenceCount).sum ≤
    result.stats.linksSeen - result.stats.linksSkipped
  /-- Nothing is lost between the links and the clusters but second links of one identifier. -/
  references_eq_iff : minReferences ≤ 1 → ((result.clusters.map Cluster.referenceCount).sum =
    result.stats.linksSeen - result.stats.linksSkipped ↔ (pairs corpus cutoff).Nodup)

variable (corpus : Corpus) (cutoff : Instant)

/-! ## Counters -/

/-- What every visit meets and counts, many in turn meet and count. -/
theorem length_foldl {α β : Type} {visit : Tally → α → Tally} {count : Tally → Nat}
    {met : α → List β} (hvisit : ∀ tally x, count (visit tally x) = count tally + (met x).length)
    (xs : List α) (tally : Tally) :
    count (xs.foldl visit tally) = count tally + (xs.flatMap met).length := by
  rw [count_foldl hvisit, List.length_flatMap]

/-- A count that no visit enters stays. -/
theorem count_foldl_of_eq {α : Type} {visit : Tally → α → Tally} {count : Tally → Nat}
    (hvisit : ∀ tally x, count (visit tally x) = count tally) (xs : List α) (tally : Tally) :
    count (xs.foldl visit tally) = count tally := by
  induction xs generalizing tally with
  | nil => rfl
  | cons x xs ih => rw [List.foldl_cons, ih, hvisit]

theorem feeds_visitArticle (tally : Tally) (article : Article) :
    (visitArticle cutoff tally article).feeds = tally.feeds := by
  have hlink : ∀ (tally : Tally) (link : String),
      (visitLink article tally link).feeds = tally.feeds := by
    intro tally link
    unfold visitLink
    split <;> rfl
  unfold visitArticle
  split
  · rfl
  · rw [count_foldl_of_eq hlink]

/-- A scan counts the feeds that keep their articles. -/
theorem feeds_tally :
    (tally corpus cutoff).feeds = (corpus.feeds.filter Feed.storesHistory).length := by
  have hfeed : ∀ (tally : Tally) (feed : Feed), (visitFeed corpus cutoff tally feed).feeds =
      tally.feeds + ([feed].filter Feed.storesHistory).length := by
    intro tally feed
    unfold visitFeed
    split
    · rename_i hkeeps
      rw [count_foldl_of_eq (feeds_visitArticle cutoff)]
      simp [hkeeps]
    · rename_i hforgets
      simp [hforgets]
  unfold tally
  rw [length_foldl hfeed, ← List.filter_flatMap, List.flatMap_singleton']
  exact Nat.zero_add _

/-- A count that only links enter is that of the links of a kind among those seen. -/
theorem count_tally {count : Tally → Nat} {counts : Article × String → Bool}
    (hlink : ∀ article tally link, count (visitLink article tally link) =
      count tally + ([(article, link)].filter counts).length)
    (harticle : ∀ (tally : Tally) articles, count { tally with articles } = count tally)
    (hfeed : ∀ (tally : Tally) feeds, count { tally with feeds } = count tally) :
    count (tally corpus cutoff) = count .empty + ((seen corpus cutoff).filter counts).length := by
  -- articles out of scope and feeds that keep none meet an empty list of links
  have hvisitArticle : ∀ (tally : Tally) (article : Article),
      count (visitArticle cutoff tally article) = count tally +
        (if ¬ article.published.Before cutoff then
          (article.outboundLinks.map fun link => (article, link)).filter counts
        else []).length := by
    intro tally article
    unfold visitArticle
    by_cases hold : article.published.Before cutoff
    · simp [hold]
    · rw [if_neg hold, if_pos hold, length_foldl (hlink article), harticle,
        ← List.filter_flatMap, List.map_eq_flatMap]
  have hvisitFeed : ∀ (tally : Tally) (feed : Feed),
      count (visitFeed corpus cutoff tally feed) = count tally +
        (if feed.storesHistory then (corpus.articles feed).flatMap fun article =>
          if ¬ article.published.Before cutoff then
            (article.outboundLinks.map fun link => (article, link)).filter counts
          else []
        else []).length := by
    intro tally feed
    unfold visitFeed
    split
    · rw [length_foldl hvisitArticle, hfeed]
    · rfl
  unfold tally seen scope
  rw [length_foldl hvisitFeed, List.flatMap_assoc, List.filter_flatMap]
  simp only [flatMap_filter, decide_eq_true_eq, List.filter_flatMap,
    apply_ite (List.filter counts), List.filter_nil]

/-- A scan counts the links it sees. -/
theorem links_tally : (tally corpus cutoff).links = (seen corpus cutoff).length := by
  have hlink : ∀ article tally link, (visitLink article tally link).links =
      tally.links + ([(article, link)].filter fun _ => true).length := by
    intro article tally link
    unfold visitLink
    split <;> rfl
  rw [count_tally corpus cutoff hlink (fun _ _ => rfl) fun _ _ => rfl, List.filter_true]
  exact Nat.zero_add _

/-- A scan counts the links it skips. -/
theorem skipped_tally :
    (tally corpus cutoff).skipped = ((seen corpus cutoff).filter isSkipped).length := by
  have hlink : ∀ article tally link, (visitLink article tally link).skipped =
      tally.skipped + ([(article, link)].filter isSkipped).length := by
    intro article tally link
    unfold visitLink
    split
    · rename_i hnone
      simp [isSkipped, hnone]
    · rename_i hsome
      simp [isSkipped, hsome]
  rw [count_tally corpus cutoff hlink (fun _ _ => rfl) fun _ _ => rfl]
  exact Nat.zero_add _

/-! ## Links that count -/

/-- The citations are those of the links seen, in order. -/
theorem citations_eq_filterMap : citations corpus cutoff = (seen corpus cutoff).filterMap
    fun link => (target? link.1 link.2).map fun url => (url, link.1) := by
  unfold citations seen
  rw [List.filterMap_flatMap]
  refine List.flatMap_congr fun article _ => ?_
  rw [List.filterMap_map]
  rfl

theorem fst_citations : (citations corpus cutoff).map Prod.fst =
    (seen corpus cutoff).filterMap fun link => target? link.1 link.2 := by
  rw [citations_eq_filterMap, List.map_filterMap]
  refine List.filterMap_congr fun link _ => ?_
  rw [Option.map_map]
  exact Option.map_id_apply

/-- A link that is seen is skipped or counts. -/
theorem length_pairs : (pairs corpus cutoff).length =
    (tally corpus cutoff).links - (tally corpus cutoff).skipped := by
  have hparts := List.length_eq_countP_add_countP (l := seen corpus cutoff) isSkipped
  have hcounts : (pairs corpus cutoff).length =
      (seen corpus cutoff).countP fun link => ¬ isSkipped link := by
    rw [pairs, List.length_map, citations_eq_filterMap, List.length_filterMap_eq_countP]
    refine List.countP_congr fun link _ => ?_
    simp [isSkipped, Option.isSome_iff_ne_none]
  rw [links_tally, skipped_tally, hparts, hcounts, List.countP_eq_length_filter (p := isSkipped),
    Nat.add_sub_cancel_left]

/-! ## Articles in clusters -/

/-- The articles of all clusters, each as the link it is counted under and its identifier. -/
def held (clusters : List Cluster) : List (String × Ident) :=
  clusters.flatMap fun cluster => cluster.articles.map fun article => (cluster.url, article.id)

theorem length_held (clusters : List Cluster) :
    (held clusters).length = (clusters.map Cluster.referenceCount).sum := by
  rw [held, List.length_flatMap]
  simp only [List.length_map]
  rfl

variable {corpus cutoff}

/-- The identifiers of a cluster are those of the citations of its link. -/
theorem articles_eq_firstOfEach {cluster : Cluster}
    (h : cluster ∈ (tally corpus cutoff).clusters) :
    cluster.articles = firstOfEach (citing cluster.url (citations corpus cutoff)) := by
  conv_lhs => rw [(represents_tally corpus cutoff).eq_ofArticles cluster h]
  exact Cluster.articles_ofArticles _ _

/-- No identifier is held twice under a link. -/
theorem nodup_held : (held (tally corpus cutoff).clusters).Nodup := by
  unfold held
  rw [List.nodup_flatMap]
  refine ⟨fun cluster hcluster => ?_, ?_⟩
  · have hids := nodup_ids_firstOfEach (citing cluster.url (citations corpus cutoff))
    rw [← articles_eq_firstOfEach hcluster] at hids
    have hpair := hids.map (f := fun id => (cluster.url, id)) fun _ _ heq => (Prod.mk.inj heq).2
    rwa [List.map_map] at hpair
  · refine (List.pairwise_map.mp (represents_tally corpus cutoff).nodup_urls).imp ?_
    intro a b hurl pair ha hb
    obtain ⟨_, -, rfl⟩ := List.mem_map.mp ha
    obtain ⟨_, -, heq⟩ := List.mem_map.mp hb
    exact hurl (Prod.mk.inj heq).1.symm

/-- What is held is what was cited. -/
theorem mem_held (pair : String × Ident) :
    pair ∈ held (tally corpus cutoff).clusters ↔ pair ∈ pairs corpus cutoff := by
  obtain ⟨url, id⟩ := pair
  -- under a link both are the identifiers of the articles that cite it
  have hciting : id ∈ (citing url (citations corpus cutoff)).map Article.id ↔
      (url, id) ∈ pairs corpus cutoff := by
    simp [citing, pairs]
  rw [← hciting, ← mem_ids_firstOfEach]
  unfold held
  constructor
  · intro hmem
    obtain ⟨cluster, hcluster, harticle⟩ := List.mem_flatMap.mp hmem
    obtain ⟨article, hheld, heq⟩ := List.mem_map.mp harticle
    obtain ⟨rfl, rfl⟩ := Prod.mk.inj heq
    rw [← articles_eq_firstOfEach hcluster]
    exact List.mem_map_of_mem hheld
  · intro hmem
    have hpair := hciting.mp ((mem_ids_firstOfEach _ _).mp hmem)
    obtain ⟨citation, hcitation, heq⟩ := List.mem_map.mp hpair
    obtain ⟨rfl, -⟩ := Prod.mk.inj heq
    obtain ⟨cluster, hcluster, hurl⟩ := List.mem_map.mp
      (((represents_tally corpus cutoff).mem_urls citation.1).mpr (List.mem_map_of_mem hcitation))
    rw [← hurl, ← articles_eq_firstOfEach hcluster] at hmem
    obtain ⟨article, harticle, rfl⟩ := List.mem_map.mp hmem
    refine List.mem_flatMap.mpr ⟨cluster, hcluster, List.mem_map.mpr ⟨article, harticle, ?_⟩⟩
    rw [hurl]

/-- The clusters hold as many articles as there are pairs. -/
theorem sum_referenceCount_tally :
    ((tally corpus cutoff).clusters.map Cluster.referenceCount).sum =
      (pairs corpus cutoff).toFinset.card := by
  rw [← length_held, ← List.toFinset_card_of_nodup nodup_held]
  congr 1
  exact List.toFinset.ext mem_held

/-- Every cluster has an article, so none is dropped where one is enough. -/
theorem sum_referenceCount_result {minReferences : Nat} (h : minReferences ≤ 1) :
    ((((tally corpus cutoff).result minReferences).clusters).map Cluster.referenceCount).sum =
      (pairs corpus cutoff).toFinset.card := by
  have hkept : (tally corpus cutoff).clusters.filter (fun cluster =>
      minReferences ≤ cluster.referenceCount) = (tally corpus cutoff).clusters := by
    refine List.filter_eq_self.mpr fun cluster hcluster => decide_eq_true (h.trans ?_)
    have hurl := ((represents_tally corpus cutoff).mem_urls cluster.url).mp
      (List.mem_map_of_mem hcluster)
    rw [mem_citations_iff, ← (articles_of_mem_tally hcluster).1] at hurl
    exact List.length_pos_iff.mpr hurl
  have hperm : ((tally corpus cutoff).result minReferences).clusters.Perm
      (tally corpus cutoff).clusters := by
    conv_rhs => rw [← hkept]
    exact Ranking.rank_perm _
  rw [(hperm.map Cluster.referenceCount).sum_eq, sum_referenceCount_tally]

/-! ## The outcome -/

theorem reconciles_result (corpus : Corpus) (cutoff : Instant) (minReferences : Nat) :
    Reconciles corpus cutoff minReferences ((tally corpus cutoff).result minReferences) where
  feedsScanned := feeds_tally corpus cutoff
  articlesScanned := articles_tally corpus cutoff
  linksSeen := links_tally corpus cutoff
  linksSkipped := skipped_tally corpus cutoff
  clustersFound := by
    have hrep := represents_tally corpus cutoff
    rw [← fst_citations]
    show (tally corpus cutoff).clusters.length = _
    rw [← List.length_map (f := Cluster.url), ← List.toFinset_card_of_nodup hrep.nodup_urls]
    congr 1
    exact List.toFinset.ext hrep.mem_urls
  clustersKept := rfl
  references_le hmin := by
    rw [sum_referenceCount_result hmin]
    exact (List.toFinset_card_le _).trans_eq (length_pairs corpus cutoff)
  references_eq_iff hmin := by
    rw [sum_referenceCount_result hmin]
    show _ = (tally corpus cutoff).links - (tally corpus cutoff).skipped ↔ _
    rw [← length_pairs]
    exact Multiset.toFinset_card_eq_card_iff_nodup (m := .ofList (pairs corpus cutoff))

/-- Where the cutoff is a date, a scan has an outcome, and its counts are those of the feeds,
articles and links in its scope. -/
theorem run?_reconciles (config : ScanConfig) (corpus : Corpus) (now cutoff : Instant)
    (hcutoff : cutoff? config now = some cutoff) :
    ∃ result, run? config corpus now = some result ∧
      Reconciles corpus cutoff config.minReferences result := by
  refine ⟨(tally corpus cutoff).result config.minReferences, ?_, reconciles_result ..⟩
  simp [run?, hcutoff]

/-- Two feeds that keep their articles and one that does not. Of two recent articles the first
cites a page twice, and has a link that is none of the web; an older one is out of scope. -/
def countedCorpus : Corpus :=
  let feed (id : Nat) (keeps : Bool) : Feed :=
    ⟨.issued [id], "feed", some "http://one.test/", -1, [], keeps⟩
  let article (id : Nat) (feed : Feed) (published : Int) (links : List String) : Article :=
    ⟨.issued [id], "article", feed, none, ⟨published, 0⟩, false, links, none⟩
  ⟨[⟨feed 0 true, [article 3 (feed 0 true) 1700000000 ["/a", "mailto:x", "http://one.test/A/"],
      article 4 (feed 0 true) 1600000000 ["/a"]]⟩,
    ⟨feed 1 false, [article 5 (feed 1 false) 1700000000 ["/b"]]⟩,
    ⟨feed 2 true, [article 6 (feed 2 true) 1700000000 ["http://one.test/a"]]⟩]⟩

/-- Of three links that count two are held: the page cited twice has a pair that comes twice. -/
theorem run?_reconciles_countedCorpus :
    cutoff? ⟨7, 1⟩ ⟨1700000600, 0⟩ = some ⟨1699395800, 0⟩ ∧
    (run? ⟨7, 1⟩ countedCorpus ⟨1700000600, 0⟩).map ScanResult.stats =
      some ⟨2, 2, 4, 1, 1, 1⟩ ∧
    ¬ (pairs countedCorpus ⟨1699395800, 0⟩).Nodup ∧
    ∃ result, run? ⟨7, 1⟩ countedCorpus ⟨1700000600, 0⟩ = some result ∧
      Reconciles countedCorpus ⟨1699395800, 0⟩ 1 result :=
  ⟨by decide, by decide +kernel, by decide +kernel,
    run?_reconciles ⟨7, 1⟩ countedCorpus ⟨1700000600, 0⟩ ⟨1699395800, 0⟩ (by decide)⟩

end LinkDigest.Scan
