import LinkDigest.Proofs.Scan.Aggregation
import LinkDigest.Proofs.Url.Canonical
import Mathlib.Data.List.Flatten
import Mathlib.Data.List.Nodup

/-!
# Scans and the order of things

What a scan finds does not depend on the order of the feeds, of their articles, or of the
clusters before they are ranked. The ranking leaves no choice: canonical links are in lower
case, so two clusters of one scan that are equally hot by the numbers are told apart by
their links.
-/

namespace LinkDigest

/-! ## Corpora in another order -/

namespace Corpus

/-- The same feeds, each with the same articles, in whatever order. -/
def Rearranges (corpus other : Corpus) : Prop :=
  ∃ shelves, corpus.shelves.Perm shelves ∧
    List.Forall₂ (fun a b => a.feed = b.feed ∧ a.articles.Perm b.articles) shelves other.shelves

/-- The corpus with its feeds, and the articles of each, the other way round. -/
def reversed (corpus : Corpus) : Corpus :=
  ⟨corpus.shelves.reverse.map fun shelf => { shelf with articles := shelf.articles.reverse }⟩

theorem rearranges_reversed (corpus : Corpus) : corpus.Rearranges corpus.reversed := by
  refine ⟨corpus.shelves.reverse, (List.reverse_perm _).symm, ?_⟩
  rw [reversed, List.forall₂_map_right_iff, List.forall₂_same]
  exact fun shelf _ => ⟨rfl, (List.reverse_perm _).symm⟩

/-- No identifier is that of two feeds or of two articles. -/
structure Distinct (corpus : Corpus) : Prop where
  feeds : (corpus.feeds.map Feed.id).Nodup
  articles : ((corpus.shelves.flatMap Shelf.articles).map Article.id).Nodup

/-- What is had from each shelf is had in another order. -/
theorem Rearranges.flatMap {corpus other : Corpus} (h : corpus.Rearranges other) {α : Type}
    {f : Shelf → List α}
    (hf : ∀ a b : Shelf, a.feed = b.feed → a.articles.Perm b.articles → (f a).Perm (f b)) :
    (corpus.shelves.flatMap f).Perm (other.shelves.flatMap f) := by
  obtain ⟨shelves, hperm, hsame⟩ := h
  refine (hperm.flatMap_right f).trans ?_
  generalize other.shelves = kept at hsame
  clear hperm
  induction hsame with
  | nil => exact .nil
  | cons hshelf _ ih =>
    rw [List.flatMap_cons, List.flatMap_cons]
    exact (hf _ _ hshelf.1 hshelf.2).append ih

theorem Rearranges.distinct {corpus other : Corpus} (h : corpus.Rearranges other)
    (hdistinct : corpus.Distinct) : other.Distinct := by
  have hids : ∀ corpus : Corpus, corpus.feeds.map Feed.id =
      corpus.shelves.flatMap fun shelf => [shelf.feed.id] := fun corpus => by
    rw [Corpus.feeds, List.map_map, List.map_eq_flatMap]
    rfl
  have hfeeds : (corpus.feeds.map Feed.id).Perm (other.feeds.map Feed.id) := by
    rw [hids, hids]
    exact h.flatMap fun a b hfeed _ => by rw [hfeed]
  have harticles := h.flatMap fun a b _ harticles => harticles
  exact ⟨hfeeds.nodup_iff.mp hdistinct.feeds,
    (harticles.map Article.id).nodup_iff.mp hdistinct.articles⟩

/-- Where no two feeds have one identifier a feed has the articles of its own shelf. -/
theorem Distinct.articles_feed {corpus : Corpus} (h : corpus.Distinct) {shelf : Shelf}
    (hshelf : shelf ∈ corpus.shelves) : corpus.articles shelf.feed = shelf.articles := by
  have hfind : ∀ shelves : List Shelf, (shelves.map fun shelf => shelf.feed.id).Nodup →
      shelf ∈ shelves →
        shelves.find? (fun other => other.feed.id = shelf.feed.id) = some shelf := by
    intro shelves hnodup hmem
    induction shelves with
    | nil => cases hmem
    | cons first rest ih =>
      rw [List.map_cons, List.nodup_cons] at hnodup
      rcases List.mem_cons.mp hmem with rfl | hmem
      · simp
      · have hne : first.feed.id ≠ shelf.feed.id := fun heq =>
          hnodup.1 (heq ▸ List.mem_map_of_mem hmem)
        rw [List.find?_cons_of_neg (by simpa using hne)]
        exact ih hnodup.2 hmem
  have hnodup : (corpus.shelves.map fun shelf => shelf.feed.id).Nodup := by
    have hfeeds := h.feeds
    rwa [Corpus.feeds, List.map_map] at hfeeds
  unfold Corpus.articles
  rw [hfind corpus.shelves hnodup hshelf]

end Corpus

/-! ## No two clusters alike -/

namespace Ranking

theorem eq_of_compareText {s t : List Char} (h : compareText s t = .eq) : s = t := by
  induction s generalizing t with
  | nil => cases t with
    | nil => rfl
    | cons d t => cases h
  | cons c s ih => cases t with
    | nil => cases h
    | cons d t =>
      rw [compareText, Ordering.then_eq_eq, Nat.compare_eq_eq] at h
      rw [Char.toNat_inj.mp h.1, ih h.2]

/-- If neither stands before the other two clusters are equally hot. -/
theorem compareHotness_eq_of_not_gt {a b : Cluster} (h : compareHotness a b ≠ .gt)
    (h' : compareHotness b a ≠ .gt) : compareHotness a b = .eq := by
  have hswap : compareHotness b a = (compareHotness a b).swap := Std.OrientedCmp.eq_swap
  rw [hswap] at h'
  cases hcompare : compareHotness a b with
  | lt => rw [hcompare] at h'; exact absurd rfl h'
  | eq => rfl
  | gt => exact absurd hcompare h

/-- Clusters of which no two are equally hot have one ranking. -/
theorem rank_eq_of_perm {clusters other : List Cluster} (hperm : clusters.Perm other)
    (hties : ∀ a ∈ clusters, ∀ b ∈ clusters, compareHotness a b = .eq → a = b) :
    rank clusters = rank other := by
  refine List.Perm.eq_of_pairwise (fun a b ha hb hab hba => ?_) (rank_sorted clusters)
    (rank_sorted other) ((rank_perm clusters).trans (hperm.trans (rank_perm other).symm))
  refine hties a ((rank_perm clusters).mem_iff.mp ha) b ?_ (compareHotness_eq_of_not_gt hab hba)
  exact hperm.mem_iff.mpr ((rank_perm other).mem_iff.mp hb)

end Ranking

namespace Scan

open LinkDigest.Text Ranking

variable {corpus other : Corpus} {cutoff : Instant}

/-- The link of a cluster is in lower case. -/
theorem lowercase_url {url : String} (h : url ∈ (tally corpus cutoff).clusters.map Cluster.url) :
    lowercase url.toList = url.toList := by
  obtain ⟨citation, hcitation, rfl⟩ :=
    List.mem_map.mp (((represents_tally corpus cutoff).mem_urls url).mp h)
  obtain ⟨article, -, hmem⟩ := List.mem_flatMap.mp hcitation
  obtain ⟨link, -, hlink⟩ := List.mem_filterMap.mp hmem
  obtain ⟨target, htarget, rfl⟩ := Option.map_eq_some_iff.mp hlink
  obtain ⟨found, hfound, rfl⟩ := Option.map_eq_some_iff.mp htarget
  have hchars := Url.of_mem_canonicalLink? hfound
  rw [String.toList_ofList, lowercase_ascii found fun c hc => (hchars c hc).1.lt]
  exact Url.asciiLowercase_eq_self fun c hc => (hchars c hc).2

/-- Equally hot clusters of scans are of one link. -/
theorem url_eq_of_compareHotness {a b : Cluster}
    (ha : a.url ∈ (tally corpus cutoff).clusters.map Cluster.url)
    (hb : b.url ∈ (tally other cutoff).clusters.map Cluster.url)
    (h : compareHotness a b = .eq) : a.url = b.url := by
  unfold compareHotness at h
  rw [Ordering.then_eq_eq, Ordering.then_eq_eq, lowercase_url ha, lowercase_url hb] at h
  exact String.toList_inj.mp (eq_of_compareText h.2.2)

/-- No two clusters of a scan are equally hot. -/
theorem eq_of_compareHotness {a b : Cluster} (ha : a ∈ (tally corpus cutoff).clusters)
    (hb : b ∈ (tally corpus cutoff).clusters) (h : compareHotness a b = .eq) : a = b :=
  List.inj_on_of_nodup_map (represents_tally corpus cutoff).nodup_urls ha hb
    (url_eq_of_compareHotness (List.mem_map_of_mem ha) (List.mem_map_of_mem hb) h)

/-! ## Clusters in another order -/

/-- The outcome of a scan whose clusters come in another order to the ranking. -/
def runInOrder? (drain : List Cluster → List Cluster) (config : ScanConfig) (corpus : Corpus)
    (now : Instant) : Option ScanResult :=
  (cutoff? config now).map fun cutoff =>
    let found := tally corpus cutoff
    { found with clusters := drain found.clusters }.result config.minReferences

theorem runInOrder?_eq_run? {drain : List Cluster → List Cluster}
    (hdrain : ∀ clusters, (drain clusters).Perm clusters) (config : ScanConfig) (corpus : Corpus)
    (now : Instant) : runInOrder? drain config corpus now = run? config corpus now := by
  unfold runInOrder? run?
  refine congrArg (fun f => Option.map f _) (funext fun cutoff => ?_)
  have hperm := hdrain (tally corpus cutoff).clusters
  have hrank : rank ((drain (tally corpus cutoff).clusters).filter fun cluster =>
      config.minReferences ≤ cluster.referenceCount) =
        rank ((tally corpus cutoff).clusters.filter fun cluster =>
          config.minReferences ≤ cluster.referenceCount) := by
    refine rank_eq_of_perm (hperm.filter _) fun a ha b hb => ?_
    exact eq_of_compareHotness (hperm.mem_iff.mp (List.mem_of_mem_filter ha))
      (hperm.mem_iff.mp (List.mem_of_mem_filter hb))
  simp only [Tally.result, hrank, hperm.length_eq]

/-! ## Articles in another order -/

/-- What a scan looks at on a shelf. -/
def recent (cutoff : Instant) (shelf : Shelf) : List Article :=
  if shelf.feed.storesHistory then
    shelf.articles.filter fun article => ¬ article.published.Before cutoff
  else []

theorem scope_eq_flatMap (h : corpus.Distinct) :
    scope corpus cutoff = corpus.shelves.flatMap (recent cutoff) := by
  unfold scope Corpus.feeds
  rw [flatMap_filter, List.flatMap_map]
  refine List.flatMap_congr fun shelf hshelf => ?_
  rw [h.articles_feed hshelf]
  rfl

/-- Without common identifiers all articles that cite a link contribute to its cluster. -/
theorem contributors_eq_filter (h : corpus.Distinct) (cutoff : Instant) (url : String) :
    contributors corpus cutoff url =
      (corpus.shelves.flatMap (recent cutoff)).filter fun article => Cites article url := by
  unfold contributors
  rw [scope_eq_flatMap h]
  refine firstOfEach_eq_self ?_
  -- Recent articles are some of all articles, of which no two have one identifier.
  have hrecent : ∀ shelf, (recent cutoff shelf).Sublist shelf.articles := by
    intro shelf
    unfold recent
    split
    · exact List.filter_sublist
    · exact List.nil_sublist _
  have hkept := List.Sublist.flatMap_right corpus.shelves fun shelf _ => hrecent shelf
  exact ((List.filter_sublist.trans hkept).map Article.id).nodup h.articles

theorem contributors_perm (h : corpus.Rearranges other) (hdistinct : corpus.Distinct)
    (cutoff : Instant) (url : String) :
    (contributors corpus cutoff url).Perm (contributors other cutoff url) := by
  rw [contributors_eq_filter hdistinct, contributors_eq_filter (h.distinct hdistinct)]
  refine (h.flatMap fun a b hfeed harticles => ?_).filter _
  unfold recent
  rw [hfeed]
  split
  · exact harticles.filter _
  · exact .nil

/-- Clusters of one link, with the same articles in whatever order and the same ratings. -/
structure Alike (a b : Cluster) : Prop where
  url : a.url = b.url
  articles : (a.articles.map Article.id).Perm (b.articles.map Article.id)
  ratingSum : a.ratingSum = b.ratingSum
  ratingCount : a.ratingCount = b.ratingCount

theorem compareHotness_congr {a a' b b' : Cluster} (ha : Alike a a') (hb : Alike b b') :
    compareHotness a b = compareHotness a' b' := by
  have hcount : ∀ {a b : Cluster}, Alike a b → a.referenceCount = b.referenceCount := by
    intro a b h
    have hlength := h.articles.length_eq
    rwa [List.length_map, List.length_map] at hlength
  unfold compareHotness Cluster.average
  rw [hcount ha, hcount hb, ha.ratingSum, ha.ratingCount, hb.ratingSum, hb.ratingCount, ha.url,
    hb.url]

/-- The cluster of a link in a scan. -/
def clusterOf (corpus : Corpus) (cutoff : Instant) (url : String) : Cluster :=
  .ofArticles url (citing url (citations corpus cutoff))

theorem alike_clusterOf (h : corpus.Rearranges other) (hdistinct : corpus.Distinct)
    (cutoff : Instant) (url : String) :
    Alike (clusterOf corpus cutoff url) (clusterOf other cutoff url) := by
  have hperm := contributors_perm h hdistinct cutoff url
  have hratings := (hperm.filter fun article =>
    article.feed.rating ≠ Feed.unrated).map fun article => article.feed.rating
  have hself := Cluster.ratingsAgree_ofArticles url (citing url (citations corpus cutoff))
  have hother := Cluster.ratingsAgree_ofArticles url (citing url (citations other cutoff))
  unfold clusterOf
  refine ⟨?_, ?_, ?_, ?_⟩
  · simp
  · rw [articles_ofArticles_citing, articles_ofArticles_citing]
    exact hperm.map Article.id
  · rw [hself.ratingSum, hother.ratingSum, articles_ofArticles_citing, articles_ofArticles_citing]
    exact hratings.sum_eq
  · rw [hself.ratingCount, hother.ratingCount, articles_ofArticles_citing,
      articles_ofArticles_citing]
    exact hratings.length_eq

/-- The clusters of an outcome are told by their links, in order. -/
theorem clusters_result_eq (corpus : Corpus) (cutoff : Instant) (minReferences : Nat) :
    ((tally corpus cutoff).result minReferences).clusters =
      (((tally corpus cutoff).result minReferences).clusters.map Cluster.url).map
        (clusterOf corpus cutoff) := by
  rw [List.map_map]
  refine ((List.map_congr_left fun cluster hcluster => ?_).trans (List.map_id _)).symm
  exact ((represents_tally corpus cutoff).eq_ofArticles cluster (mem_result.mp hcluster).1).symm

/-- Scans of a corpus in two orders list the same links in the same order. -/
theorem urls_result (h : corpus.Rearranges other) (hdistinct : corpus.Distinct)
    (cutoff : Instant) (minReferences : Nat) :
    ((tally corpus cutoff).result minReferences).clusters.map Cluster.url =
      ((tally other cutoff).result minReferences).clusters.map Cluster.url := by
  have hfound := aggregates_result corpus cutoff minReferences
  have hother := aggregates_result other cutoff minReferences
  have halike := alike_clusterOf h hdistinct cutoff
  have hsorted := hfound.sorted
  rw [clusters_result_eq corpus, List.pairwise_map] at hsorted
  have hotherSorted := hother.sorted
  rw [clusters_result_eq other, List.pairwise_map] at hotherSorted
  have htally : ∀ {corpus : Corpus} {url : String},
      url ∈ ((tally corpus cutoff).result minReferences).clusters.map Cluster.url →
        url ∈ (tally corpus cutoff).clusters.map Cluster.url := by
    intro corpus url hurl
    obtain ⟨cluster, hcluster, rfl⟩ := List.mem_map.mp hurl
    exact List.mem_map_of_mem (mem_result.mp hcluster).1
  refine List.Perm.eq_of_pairwise (fun url next hurl hnext hab hba => ?_) hsorted
    (hotherSorted.imp fun {url next} hle => ?_) ?_
  · -- Both would do in either order, so the links are equally hot.
    have hself : (clusterOf corpus cutoff url).url = url := Cluster.url_ofArticles ..
    have hnextSelf : (clusterOf corpus cutoff next).url = next := Cluster.url_ofArticles ..
    have heq := compareHotness_eq_of_not_gt hab hba
    have hsame := url_eq_of_compareHotness (hself.symm ▸ htally hurl)
      (hnextSelf.symm ▸ htally hnext) heq
    rwa [hself, hnextSelf] at hsame
  · rwa [compareHotness_congr (halike url) (halike next)]
  · rw [List.perm_ext_iff_of_nodup hfound.nodup_urls hother.nodup_urls]
    intro url
    have hperm := contributors_perm h hdistinct cutoff url
    have hnil : contributors corpus cutoff url = [] ↔ contributors other cutoff url = [] := by
      rw [← List.length_eq_zero_iff, ← List.length_eq_zero_iff, hperm.length_eq]
    rw [hfound.mem_urls, hother.mem_urls, hperm.length_eq, ne_eq, ne_eq, hnil]

theorem alike_result (h : corpus.Rearranges other) (hdistinct : corpus.Distinct)
    (cutoff : Instant) (minReferences : Nat) :
    List.Forall₂ Alike ((tally corpus cutoff).result minReferences).clusters
      ((tally other cutoff).result minReferences).clusters := by
  rw [clusters_result_eq corpus, clusters_result_eq other, ← urls_result h hdistinct,
    List.forall₂_map_left_iff, List.forall₂_map_right_iff, List.forall₂_same]
  exact fun url _ => alike_clusterOf h hdistinct cutoff url

/-- Whatever the order of feeds, of their articles and of the clusters before they are
ranked, a scan lists the same links in the same order, each with the same articles and
ratings: no two of its clusters are equally hot. -/
theorem run_unordered (config : ScanConfig) (now : Instant) {corpus other : Corpus}
    (h : corpus.Rearranges other) (hdistinct : corpus.Distinct)
    {drain otherDrain : List Cluster → List Cluster}
    (hdrain : ∀ clusters, (drain clusters).Perm clusters)
    (hotherDrain : ∀ clusters, (otherDrain clusters).Perm clusters) :
    runInOrder? drain config corpus now = run? config corpus now ∧
    Option.Rel (fun result otherResult =>
        List.Forall₂ Alike result.clusters otherResult.clusters)
      (runInOrder? drain config corpus now) (runInOrder? otherDrain config other now) ∧
    ∀ cutoff, ∀ a ∈ (tally corpus cutoff).clusters, ∀ b ∈ (tally corpus cutoff).clusters,
      compareHotness a b = .eq → a = b := by
  refine ⟨runInOrder?_eq_run? hdrain config corpus now, ?_, fun cutoff a ha b hb =>
    eq_of_compareHotness ha hb⟩
  rw [runInOrder?_eq_run? hdrain, runInOrder?_eq_run? hotherDrain]
  unfold run?
  cases cutoff? config now with
  | none => exact .none
  | some cutoff => exact .some (alike_result h hdistinct cutoff config.minReferences)

/-- Two feeds, of which only one is rated, and two pages that an article of each cites. -/
def evenCorpus : Corpus :=
  let rated : Feed := ⟨.issued [0], "rated", some "http://one.test/", 4, [], true⟩
  let unrated : Feed := ⟨.issued [1], "unrated", none, -1, [], true⟩
  let article (id : Nat) (feed : Feed) (links : List String) : Article :=
    ⟨.issued [id], "even", feed, none, ⟨1700000000, 0⟩, false, links, none⟩
  ⟨[⟨rated, [article 2 rated ["/B", "http://one.test/A/"]]⟩,
    ⟨unrated, [article 3 unrated ["http://one.test/b"], article 4 unrated ["http://one.test/a"]]⟩]⟩

theorem distinct_evenCorpus : evenCorpus.Distinct := ⟨by decide, by decide⟩

/-- The two pages are equally hot by the numbers, and still have one order. -/
theorem run_unordered_evenCorpus :
    (tally evenCorpus ⟨1699395800, 0⟩).clusters.map (fun cluster =>
        (cluster.url, cluster.referenceCount, cluster.average)) =
      [("http://one.test/b", 2, ⟨4, 1⟩), ("http://one.test/a", 2, ⟨4, 1⟩)] ∧
    evenCorpus.Rearranges evenCorpus.reversed ∧ evenCorpus.Distinct ∧
    Option.Rel (fun result otherResult =>
        List.Forall₂ Alike result.clusters otherResult.clusters)
      (runInOrder? id .default evenCorpus ⟨1700000600, 0⟩)
      (runInOrder? List.reverse .default evenCorpus.reversed ⟨1700000600, 0⟩) :=
  ⟨by decide +kernel, evenCorpus.rearranges_reversed, distinct_evenCorpus,
    (run_unordered .default ⟨1700000600, 0⟩ evenCorpus.rearranges_reversed distinct_evenCorpus
      (fun _ => .refl _) List.reverse_perm).2.1⟩

end Scan

end LinkDigest
