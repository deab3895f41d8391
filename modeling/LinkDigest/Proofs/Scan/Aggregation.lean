import LinkDigest.Proofs.Cluster.Contributors
import LinkDigest.Proofs.Cluster.Ranking
import LinkDigest.Scan

/-!
# What a scan finds

A scan visits feeds, articles and links one inside the other and files every
link it can spell canonically. What it has filed after any part of the way is
told by the citations met so far: the clusters are those of the links met, each
once, and each holds the first article of every identifier that cites it.
-/

namespace LinkDigest.Scan

/-! ## The reference -/

/-- The recent articles of the feeds that keep theirs, in the order of the scan. -/
def scope (corpus : Corpus) (cutoff : Instant) : List Article :=
  (corpus.feeds.filter Feed.storesHistory).flatMap fun feed =>
    (corpus.articles feed).filter fun article => ¬ article.published.Before cutoff

/-- Whether one of the links of an article has this canonical spelling. -/
def Cites (article : Article) (url : String) : Prop :=
  ∃ link ∈ article.outboundLinks, target? article link = some url

instance (article : Article) (url : String) : Decidable (Cites article url) := by
  unfold Cites
  infer_instance

/-- The articles that count for a link: of those that cite it, the first one of
each identifier. -/
def contributors (corpus : Corpus) (cutoff : Instant) (url : String) : List Article :=
  firstOfEach ((scope corpus cutoff).filter fun article => Cites article url)

/-- What the clusters of a scan have to be. -/
structure Aggregates (corpus : Corpus) (cutoff : Instant) (minReferences : Nat)
    (clusters : List Cluster) : Prop where
  /-- No link has two clusters. -/
  nodup_urls : (clusters.map Cluster.url).Nodup
  /-- A link has a cluster if enough articles cite it, and never for none. -/
  mem_urls : ∀ url, url ∈ clusters.map Cluster.url ↔
    contributors corpus cutoff url ≠ [] ∧ minReferences ≤ (contributors corpus cutoff url).length
  articles : ∀ cluster ∈ clusters, cluster.articles = contributors corpus cutoff cluster.url
  ratingCount : ∀ cluster ∈ clusters, cluster.ratingCount =
    ((contributors corpus cutoff cluster.url).filter fun article => article.feed.rating ≠ -1).length
  ratingSum : ∀ cluster ∈ clusters, cluster.ratingSum =
    (((contributors corpus cutoff cluster.url).filter fun article =>
      article.feed.rating ≠ -1).map fun article => article.feed.rating).sum
  sorted : clusters.Pairwise fun a b => Ranking.compareHotness a b ≠ .gt

/-! ## Filing one citation -/

theorem urls_cite (url : String) (article : Article) (clusters : List Cluster) :
    (cite url article clusters).map Cluster.url =
      if url ∈ clusters.map Cluster.url then clusters.map Cluster.url
      else clusters.map Cluster.url ++ [url] := by
  induction clusters with
  | nil => simp [cite, Cluster.new]
  | cons cluster rest ih =>
    unfold cite
    by_cases hurl : cluster.url = url
    · simp [hurl]
    · have hne : url ≠ cluster.url := fun h => hurl h.symm
      simp only [if_neg hurl, List.map_cons, ih, List.mem_cons, hne, false_or]
      split <;> rfl

/-- A cluster after a citation is an old one of another link, or that of the
link with the article added. -/
theorem mem_cite {url : String} {article : Article} {clusters : List Cluster} {cluster : Cluster}
    (hnodup : (clusters.map Cluster.url).Nodup) (hmem : cluster ∈ cite url article clusters) :
    (cluster.url ≠ url ∧ cluster ∈ clusters) ∨
    (∃ old ∈ clusters, old.url = url ∧ cluster = old.add article) ∨
    (url ∉ clusters.map Cluster.url ∧ cluster = (Cluster.new url).add article) := by
  induction clusters with
  | nil =>
    rw [cite, List.mem_singleton] at hmem
    exact .inr (.inr ⟨by simp, hmem⟩)
  | cons first rest ih =>
    rw [List.map_cons, List.nodup_cons] at hnodup
    obtain ⟨hfirst, hrest⟩ := hnodup
    unfold cite at hmem
    by_cases hurl : first.url = url
    · rw [if_pos hurl] at hmem
      rcases List.mem_cons.mp hmem with rfl | hmem
      · exact .inr (.inl ⟨first, List.mem_cons_self, hurl, rfl⟩)
      · refine .inl ⟨?_, List.mem_cons_of_mem _ hmem⟩
        intro heq
        exact hfirst (hurl.trans heq.symm ▸ List.mem_map_of_mem hmem)
    · rw [if_neg hurl] at hmem
      rcases List.mem_cons.mp hmem with rfl | hmem
      · exact .inl ⟨hurl, List.mem_cons_self⟩
      · rcases ih hrest hmem with ⟨hne, hold⟩ | ⟨old, hold, heq⟩ | ⟨hnew, heq⟩
        · exact .inl ⟨hne, List.mem_cons_of_mem _ hold⟩
        · exact .inr (.inl ⟨old, List.mem_cons_of_mem _ hold, heq⟩)
        · refine .inr (.inr ⟨?_, heq⟩)
          rw [List.map_cons, List.mem_cons]
          rintro (h | h)
          · exact hurl h.symm
          · exact hnew h

/-! ## Filing many -/

/-- A link in its canonical spelling and an article that has it. -/
abbrev Citation := String × Article

/-- Clusters with a citation filed. -/
def file (clusters : List Cluster) (citation : Citation) : List Cluster :=
  cite citation.1 citation.2 clusters

/-- The articles of the citations of a link. -/
def citing (url : String) (citations : List Citation) : List Article :=
  (citations.filter fun citation => citation.1 = url).map Prod.snd

/-- The clusters are those of the citations met so far. -/
structure Represents (citations : List Citation) (clusters : List Cluster) : Prop where
  nodup_urls : (clusters.map Cluster.url).Nodup
  mem_urls : ∀ url, url ∈ clusters.map Cluster.url ↔ url ∈ citations.map Prod.fst
  eq_ofArticles : ∀ cluster ∈ clusters,
    cluster = Cluster.ofArticles cluster.url (citing cluster.url citations)

theorem Represents.nil : Represents [] [] := ⟨List.nodup_nil, by simp, by simp⟩

theorem citing_append_self (citations : List Citation) (url : String) (article : Article) :
    citing url (citations ++ [(url, article)]) = citing url citations ++ [article] := by
  simp [citing]

theorem citing_append_of_ne (citations : List Citation) {url other : String} (article : Article)
    (h : other ≠ url) : citing url (citations ++ [(other, article)]) = citing url citations := by
  simp [citing, h]

theorem citing_eq_nil {citations : List Citation} {url : String}
    (h : url ∉ citations.map Prod.fst) : citing url citations = [] := by
  unfold citing
  rw [List.map_eq_nil_iff, List.filter_eq_nil_iff]
  intro citation hmem heq
  exact h (List.mem_map.mpr ⟨citation, hmem, by simpa using heq⟩)

theorem Represents.file {citations : List Citation} {clusters : List Cluster}
    (h : Represents citations clusters) (citation : Citation) :
    Represents (citations ++ [citation]) (file clusters citation) := by
  obtain ⟨hnodup, hmem, heq⟩ := h
  obtain ⟨url, article⟩ := citation
  have hurls := urls_cite url article clusters
  refine ⟨?_, ?_, ?_⟩
  · unfold Scan.file
    rw [hurls]
    split
    · exact hnodup
    · rename_i hnew
      exact List.nodup_append.mpr ⟨hnodup, by simp, by
        intro known hknown _ hurl heq
        rw [List.mem_singleton] at hurl
        exact hnew (hurl ▸ heq ▸ hknown)⟩
  · intro other
    unfold Scan.file
    rw [hurls, List.map_append, List.mem_append, ← hmem other]
    split <;> simp_all
  · intro cluster hcluster
    -- A cluster for another link, the one that grew, or one made for this citation.
    rcases mem_cite hnodup hcluster with ⟨hne, hold⟩ | ⟨old, hold, hurl, rfl⟩ | ⟨hnew, rfl⟩
    · rw [citing_append_of_ne citations article (Ne.symm hne)]
      exact heq cluster hold
    · rw [Cluster.url_add, hurl, citing_append_self, Cluster.ofArticles_append]
      congr 1
      rw [← hurl]
      exact heq old hold
    · have hnone : citing url citations = [] := citing_eq_nil (mt (hmem url).mpr hnew)
      rw [Cluster.url_add]
      show (Cluster.new url).add article =
        Cluster.ofArticles url (citing url (citations ++ [(url, article)]))
      rw [citing_append_self, hnone]
      rfl

theorem Represents.foldl_file {citations : List Citation} {clusters : List Cluster}
    (h : Represents citations clusters) (next : List Citation) :
    Represents (citations ++ next) (next.foldl Scan.file clusters) := by
  induction next generalizing citations clusters with
  | nil => simpa using h
  | cons citation rest ih => simpa using ih (h.file citation)

/-! ## The way through the corpus -/

/-- The citations of an article, in the order of its links. -/
def citationsOf (article : Article) : List Citation :=
  article.outboundLinks.filterMap fun link => (target? article link).map fun url => (url, article)

/-- The citations a scan meets, in its order. -/
def citations (corpus : Corpus) (cutoff : Instant) : List Citation :=
  (scope corpus cutoff).flatMap citationsOf

/-- A visit that files citations, made to many in turn, files the citations of all. -/
theorem clusters_foldl {α : Type} {visit : Tally → α → Tally} {met : α → List Citation}
    (hvisit : ∀ tally x, (visit tally x).clusters = (met x).foldl file tally.clusters)
    (xs : List α) (tally : Tally) :
    (xs.foldl visit tally).clusters = (xs.flatMap met).foldl file tally.clusters := by
  induction xs generalizing tally with
  | nil => rfl
  | cons x xs ih => rw [List.foldl_cons, ih, hvisit, List.flatMap_cons, List.foldl_append]

theorem clusters_visitLink (article : Article) (tally : Tally) (link : String) :
    (visitLink article tally link).clusters =
      ((target? article link).map fun url => (url, article)).toList.foldl file tally.clusters := by
  unfold visitLink
  cases target? article link <;> rfl

theorem clusters_visitArticle (cutoff : Instant) (tally : Tally) (article : Article) :
    (visitArticle cutoff tally article).clusters =
      (if article.published.Before cutoff then [] else citationsOf article).foldl file
        tally.clusters := by
  unfold visitArticle
  split
  · rfl
  · rw [clusters_foldl (clusters_visitLink article), citationsOf,
      List.filterMap_eq_flatMap_toList]

theorem clusters_visitFeed (corpus : Corpus) (cutoff : Instant) (tally : Tally) (feed : Feed) :
    (visitFeed corpus cutoff tally feed).clusters =
      (if feed.storesHistory then (corpus.articles feed).flatMap fun article =>
        if article.published.Before cutoff then [] else citationsOf article
      else []).foldl file tally.clusters := by
  unfold visitFeed
  split
  · rw [clusters_foldl (clusters_visitArticle cutoff)]
  · rfl

theorem flatMap_filter {α β : Type} (keep : α → Bool) (f : α → List β) (xs : List α) :
    (xs.filter keep).flatMap f = xs.flatMap fun x => if keep x then f x else [] := by
  induction xs with
  | nil => rfl
  | cons x xs ih => by_cases hkeep : keep x <;> simp [hkeep, ih]

/-- The clusters of a scan are those of the citations it meets. -/
theorem clusters_tally (corpus : Corpus) (cutoff : Instant) :
    (tally corpus cutoff).clusters = (citations corpus cutoff).foldl file [] := by
  have hrecent : ∀ article : Article,
      (if article.published.Before cutoff then [] else citationsOf article) =
        if ¬ article.published.Before cutoff then citationsOf article else [] := by
    intro article
    rw [ite_not]
  unfold tally citations scope
  rw [clusters_foldl (clusters_visitFeed corpus cutoff), List.flatMap_assoc]
  simp only [flatMap_filter, decide_eq_true_eq, hrecent]
  rfl

/-- What every visit adds to a count, many in turn add up to. -/
theorem count_foldl {α : Type} {visit : Tally → α → Tally} {count : Tally → Nat} {adds : α → Nat}
    (hvisit : ∀ tally x, count (visit tally x) = count tally + adds x) (xs : List α)
    (tally : Tally) : count (xs.foldl visit tally) = count tally + (xs.map adds).sum := by
  induction xs generalizing tally with
  | nil => rfl
  | cons x xs ih => rw [List.foldl_cons, ih, hvisit, List.map_cons, List.sum_cons, Nat.add_assoc]

theorem articles_visitArticle (cutoff : Instant) (tally : Tally) (article : Article) :
    (visitArticle cutoff tally article).articles =
      tally.articles + ([article].filter fun article => ¬ article.published.Before cutoff).length := by
  have hlink : ∀ (tally : Tally) (link : String),
      (visitLink article tally link).articles = tally.articles + 0 := by
    intro tally link
    unfold visitLink
    split <;> rfl
  unfold visitArticle
  by_cases hold : article.published.Before cutoff
  · simp [hold]
  · rw [if_neg hold, count_foldl hlink]
    simp [hold]

/-- A scan counts the articles in its scope. -/
theorem articles_tally (corpus : Corpus) (cutoff : Instant) :
    (tally corpus cutoff).articles = (scope corpus cutoff).length := by
  have hfeed : ∀ (tally : Tally) (feed : Feed), (visitFeed corpus cutoff tally feed).articles =
      tally.articles + if feed.storesHistory then
        ((corpus.articles feed).filter fun article => ¬ article.published.Before cutoff).length
      else 0 := by
    intro tally feed
    unfold visitFeed
    split
    · rw [count_foldl (articles_visitArticle cutoff), ← List.length_flatMap, ← List.filter_flatMap,
        List.flatMap_singleton']
    · rfl
  unfold tally scope
  rw [count_foldl hfeed, flatMap_filter, List.length_flatMap]
  simp only [apply_ite List.length, List.length_nil]
  exact Nat.zero_add _

theorem represents_tally (corpus : Corpus) (cutoff : Instant) :
    Represents (citations corpus cutoff) (tally corpus cutoff).clusters := by
  rw [clusters_tally]
  exact Represents.nil.foldl_file (citations corpus cutoff)

/-! ## Contributors -/

/-- An article is listed once for each of its links with the canonical spelling. -/
theorem citing_citationsOf (url : String) (article : Article) :
    citing url (citationsOf article) =
      (article.outboundLinks.filter fun link => target? article link = some url).map
        fun _ => article := by
  unfold citing citationsOf
  induction article.outboundLinks with
  | nil => rfl
  | cons link links ih =>
    cases htarget : target? article link with
    | none => simpa [htarget] using ih
    | some other =>
      by_cases hother : other = url
      · simpa [htarget, hother] using ih
      · simpa [htarget, hother] using ih

/-- Of the citations of a link by one article only the first counts. -/
theorem foldl_add_citing (url : String) (articles : List Article) (cluster : Cluster) :
    (citing url (articles.flatMap citationsOf)).foldl Cluster.add cluster =
      (articles.filter fun article => Cites article url).foldl Cluster.add cluster := by
  induction articles generalizing cluster with
  | nil => rfl
  | cons article rest ih =>
    have hcites : (article.outboundLinks.filter fun link =>
        target? article link = some url).isEmpty ↔ ¬ Cites article url := by
      simp [Cites, List.isEmpty_iff, List.filter_eq_nil_iff]
    have happend : citing url (citationsOf article ++ rest.flatMap citationsOf) =
        citing url (citationsOf article) ++ citing url (rest.flatMap citationsOf) := by
      simp [citing]
    rw [List.flatMap_cons, happend, List.foldl_append, ih, citing_citationsOf,
      Cluster.foldl_add_map_const, List.filter_cons]
    -- The second time on, adding the article changes nothing.
    by_cases hcite : Cites article url
    · rw [if_neg (by simpa [hcites] using hcite)]
      simp [hcite]
    · rw [if_pos (hcites.mpr hcite)]
      simp [hcite]

/-- The articles of the citations of a link make the cluster of its contributors. -/
theorem articles_ofArticles_citing (corpus : Corpus) (cutoff : Instant) (url : String) :
    (Cluster.ofArticles url (citing url (citations corpus cutoff))).articles =
      contributors corpus cutoff url := by
  unfold Cluster.ofArticles citations
  rw [foldl_add_citing]
  exact Cluster.articles_ofArticles url _

theorem mem_citations_iff (corpus : Corpus) (cutoff : Instant) (url : String) :
    url ∈ (citations corpus cutoff).map Prod.fst ↔ contributors corpus cutoff url ≠ [] := by
  have harticle : ∀ article : Article,
      url ∈ (citationsOf article).map Prod.fst ↔ Cites article url := by
    intro article
    simp [citationsOf, Cites]
  unfold contributors
  rw [ne_eq, firstOfEach_eq_nil, List.filter_eq_nil_iff]
  unfold citations
  rw [List.map_flatMap, List.mem_flatMap]
  simp [harticle]

/-! ## The outcome -/

theorem mem_result {tally : Tally} {minReferences : Nat} {cluster : Cluster} :
    cluster ∈ (tally.result minReferences).clusters ↔
      cluster ∈ tally.clusters ∧ minReferences ≤ cluster.referenceCount := by
  unfold Tally.result
  rw [(Ranking.rank_perm _).mem_iff]
  simp

/-- A cluster of the outcome is that of the contributors of its link. -/
theorem articles_of_mem_tally {corpus : Corpus} {cutoff : Instant} {cluster : Cluster}
    (h : cluster ∈ (tally corpus cutoff).clusters) :
    cluster.articles = contributors corpus cutoff cluster.url ∧ cluster.RatingsAgree := by
  have heq := (represents_tally corpus cutoff).eq_ofArticles cluster h
  constructor
  · rw [← articles_ofArticles_citing]
    exact congrArg Cluster.articles heq
  · rw [heq]
    exact Cluster.ratingsAgree_ofArticles _ _

theorem aggregates_result (corpus : Corpus) (cutoff : Instant) (minReferences : Nat) :
    Aggregates corpus cutoff minReferences ((tally corpus cutoff).result minReferences).clusters := by
  have hrep := represents_tally corpus cutoff
  have hperm : ((tally corpus cutoff).result minReferences).clusters.Perm
      ((tally corpus cutoff).clusters.filter fun cluster =>
        minReferences ≤ cluster.referenceCount) := Ranking.rank_perm _
  refine ⟨?_, ?_, ?_, ?_, ?_, Ranking.rank_sorted _⟩
  · rw [(hperm.map Cluster.url).nodup_iff]
    exact (List.filter_sublist.map Cluster.url).nodup hrep.nodup_urls
  · intro url
    rw [← mem_citations_iff, ← hrep.mem_urls]
    constructor
    · intro hmem
      obtain ⟨cluster, hcluster, rfl⟩ := List.mem_map.mp hmem
      obtain ⟨hfound, hcount⟩ := mem_result.mp hcluster
      refine ⟨List.mem_map_of_mem hfound, ?_⟩
      rw [← (articles_of_mem_tally hfound).1]
      exact hcount
    · rintro ⟨hmem, hcount⟩
      obtain ⟨cluster, hfound, rfl⟩ := List.mem_map.mp hmem
      refine List.mem_map_of_mem (mem_result.mpr ⟨hfound, ?_⟩)
      rw [← (articles_of_mem_tally hfound).1] at hcount
      exact hcount
  · intro cluster hcluster
    exact (articles_of_mem_tally (mem_result.mp hcluster).1).1
  · intro cluster hcluster
    obtain ⟨harticles, hratings⟩ := articles_of_mem_tally (mem_result.mp hcluster).1
    rw [hratings.ratingCount, ← harticles, Cluster.ratings, List.length_map]
    rfl
  · intro cluster hcluster
    obtain ⟨harticles, hratings⟩ := articles_of_mem_tally (mem_result.mp hcluster).1
    rw [hratings.ratingSum, ← harticles]
    rfl

/-- A scan lists no link twice. -/
theorem nodup_urls_of_run? {config : ScanConfig} {corpus : Corpus} {now : Instant}
    {result : ScanResult} (h : run? config corpus now = some result) :
    (result.clusters.map Cluster.url).Nodup := by
  obtain ⟨cutoff, -, rfl⟩ := Option.map_eq_some_iff.mp h
  exact (aggregates_result corpus cutoff config.minReferences).nodup_urls

/-- A scan looks for no titles. -/
theorem title_of_run? {config : ScanConfig} {corpus : Corpus} {now : Instant}
    {result : ScanResult} (h : run? config corpus now = some result) :
    ∀ cluster ∈ result.clusters, cluster.title = none := by
  obtain ⟨cutoff, -, rfl⟩ := Option.map_eq_some_iff.mp h
  intro cluster hcluster
  rw [(represents_tally corpus cutoff).eq_ofArticles cluster (mem_result.mp hcluster).1]
  exact Cluster.title_ofArticles ..

/-- Where the cutoff is a date, a scan has an outcome, and its clusters are those
of the contributors of each link. -/
theorem run?_aggregates (config : ScanConfig) (corpus : Corpus) (now cutoff : Instant)
    (hcutoff : cutoff? config now = some cutoff) :
    ∃ result, run? config corpus now = some result ∧
      Aggregates corpus cutoff config.minReferences result.clusters := by
  refine ⟨(tally corpus cutoff).result config.minReferences, ?_, aggregates_result ..⟩
  simp [run?, hcutoff]

/-- Two feeds, of which only one is rated. An article of the one and one of the
other share an identifier; with a third they cite one page in three spellings. -/
def sharedCorpus : Corpus :=
  let rated : Feed := ⟨.issued [0], "rated", some "http://one.test/", 4, [], true⟩
  let unrated : Feed := ⟨.issued [1], "unrated", none, -1, [], true⟩
  let article (id : Nat) (feed : Feed) (links : List String) : Article :=
    ⟨.issued [id], "shared", feed, none, ⟨1700000000, 0⟩, false, links, none⟩
  ⟨[⟨rated, [article 2 rated ["/a", "http://one.test/A/"]]⟩,
    ⟨unrated, [article 2 unrated ["http://one.test/a"], article 3 unrated ["HTTP://one.test/a"]]⟩]⟩

theorem run?_aggregates_sharedCorpus :
    cutoff? .default ⟨1700000600, 0⟩ = some ⟨1699395800, 0⟩ ∧
    (contributors sharedCorpus ⟨1699395800, 0⟩ "http://one.test/a").map Article.id =
      [.issued [2], .issued [3]] ∧
    ∃ result, run? .default sharedCorpus ⟨1700000600, 0⟩ = some result ∧
      Aggregates sharedCorpus ⟨1699395800, 0⟩ 2 result.clusters :=
  ⟨by decide, by decide +kernel,
    run?_aggregates .default sharedCorpus ⟨1700000600, 0⟩ ⟨1699395800, 0⟩ (by decide)⟩

end LinkDigest.Scan
