import LinkDigest.Corpus.Document
import LinkDigest.Proofs.Scan.Aggregation
import Mathlib.Data.List.Nodup

/-!
# What a corpus lists

Under a feed a corpus lists the articles that were put into it for a feed of that
identifier, in the order in which they came. So an article is listed under every feed with
the identifier of its own: once if there is one such feed, and more often where a feed has
been added again.
-/

namespace LinkDigest.Corpus

/-! ## How corpora come to be -/

/-- The articles of a document, each for the feed it stands in. -/
def writtenArticles (entries : List FeedEntry) : List Article :=
  entries.zipIdx.flatMap fun (entry, index) =>
    entry.articles.zipIdx.map fun (item, place) => item.article (entry.feed index) [index, place]

/-- A corpus that was read from a document, or built by adding feeds and articles in any
order, with all the articles that were put into it. -/
inductive Built : Corpus → List Article → Prop where
  | empty : Built .empty []
  | parsed {text : List Char} {entries : List FeedEntry}
      (h : (Json.parse? text).bind entries? = some entries) :
      Built (ofEntries entries) (writtenArticles entries)
  | addFeed {corpus : Corpus} {articles : List Article} (h : Built corpus articles)
      (feed : Feed) : Built (corpus.addFeed feed) articles
  | addArticle {corpus : Corpus} {articles : List Article} (h : Built corpus articles)
      (article : Article) : Built (corpus.addArticle article) (articles ++ [article])

/-- A document that can be read makes a corpus. -/
theorem exists_built_of_parse? {text : List Char} {corpus : Corpus}
    (h : parse? text = some corpus) : ∃ articles, Built corpus articles := by
  obtain ⟨entries, hentries, rfl⟩ := Option.map_eq_some_iff.mp h
  exact ⟨writtenArticles entries, .parsed hentries⟩

/-! ## One feed -/

@[simp] theorem articles_addFeed (corpus : Corpus) (feed other : Feed) :
    (corpus.addFeed feed).articles other = corpus.articles other := by
  unfold articles addFeed
  rw [List.find?_append]
  cases corpus.shelves.find? fun shelf => shelf.feed.id = other.id with
  | some shelf => rfl
  | none =>
    rw [Option.none_or]
    by_cases hid : feed.id = other.id
    · rw [List.find?_cons_of_pos (by simpa using hid)]
    · rw [List.find?_cons_of_neg (by simpa using hid), List.find?_nil]

@[simp] theorem articles_addArticle (corpus : Corpus) (article : Article) (feed : Feed) :
    (corpus.addArticle article).articles feed =
      corpus.articles feed ++ if article.feed.id = feed.id then [article] else [] := by
  obtain ⟨shelves⟩ := corpus
  show articles ⟨shelve article shelves⟩ feed = _
  induction shelves with
  | nil =>
    by_cases hid : article.feed.id = feed.id <;> simp [articles, shelve, hid]
  | cons shelf rest ih =>
    unfold articles at ih ⊢
    rw [shelve]
    by_cases hown : shelf.feed.id = article.feed.id
    · rw [if_pos hown]
      by_cases hid : shelf.feed.id = feed.id
      · simp [hid, ← hown]
      · rw [List.find?_cons_of_neg (by simpa using hid),
          List.find?_cons_of_neg (by simpa using hid), if_neg (hown ▸ hid), List.append_nil]
    · rw [if_neg hown]
      by_cases hid : shelf.feed.id = feed.id
      · have hother : ¬ article.feed.id = feed.id := fun heq => hown (hid.trans heq.symm)
        simp [hid, hother]
      · rw [List.find?_cons_of_neg (by simpa using hid),
          List.find?_cons_of_neg (by simpa using hid)]
        exact ih

/-- No feed is lost when an article comes, and that of the article is there. -/
theorem feeds_addArticle (corpus : Corpus) (article : Article) :
    corpus.feeds <+: (corpus.addArticle article).feeds ∧
      ∃ feed ∈ (corpus.addArticle article).feeds, feed.id = article.feed.id := by
  obtain ⟨shelves⟩ := corpus
  show shelves.map Shelf.feed <+: (shelve article shelves).map Shelf.feed ∧
    ∃ feed ∈ (shelve article shelves).map Shelf.feed, feed.id = article.feed.id
  induction shelves with
  | nil => exact ⟨List.nil_prefix, article.feed, List.mem_singleton_self _, rfl⟩
  | cons shelf rest ih =>
    rw [shelve]
    by_cases hown : shelf.feed.id = article.feed.id
    · rw [if_pos hown]
      exact ⟨List.prefix_refl _, shelf.feed, List.mem_cons_self, hown⟩
    · rw [if_neg hown, List.map_cons, List.map_cons]
      obtain ⟨hbegins, feed, hfeed, hid⟩ := ih
      exact ⟨(List.prefix_cons_inj _).mpr hbegins, feed, List.mem_cons_of_mem _ hfeed, hid⟩

/-! ## What is kept -/

/-- A corpus keeps these articles: it lists each under the feeds with the identifier of its
own, of which there is one, and counts it once. -/
structure Keeps (corpus : Corpus) (kept : List Article) : Prop where
  articles_eq : ∀ feed, corpus.articles feed = kept.filter fun article => article.feed.id = feed.id
  articleCount_eq : corpus.articleCount = kept.length
  exists_feed : ∀ article ∈ kept, ∃ feed ∈ corpus.feeds, feed.id = article.feed.id

namespace Keeps

variable {corpus : Corpus} {kept : List Article}

theorem empty : Keeps .empty [] :=
  ⟨fun _ => rfl, rfl, fun _ harticle => absurd harticle List.not_mem_nil⟩

theorem addFeed (h : corpus.Keeps kept) (feed : Feed) : (corpus.addFeed feed).Keeps kept where
  articles_eq other := by rw [articles_addFeed, h.articles_eq]
  articleCount_eq := by simp [h.articleCount_eq]
  exists_feed article harticle := by
    obtain ⟨known, hknown, hid⟩ := h.exists_feed article harticle
    refine ⟨known, ?_, hid⟩
    rw [feeds, Corpus.addFeed, List.map_append]
    exact List.mem_append_left _ hknown

theorem addArticle (h : corpus.Keeps kept) (article : Article) :
    (corpus.addArticle article).Keeps (kept ++ [article]) where
  articles_eq feed := by
    rw [articles_addArticle, h.articles_eq, List.filter_append, List.filter_singleton]
    simp
  articleCount_eq := by simp [h.articleCount_eq]
  exists_feed other hother := by
    obtain ⟨hbegins, hown⟩ := feeds_addArticle corpus article
    rcases List.mem_append.mp hother with hold | hnew
    · obtain ⟨known, hknown, hid⟩ := h.exists_feed other hold
      exact ⟨known, hbegins.subset hknown, hid⟩
    · rw [List.mem_singleton.mp hnew]
      exact hown

theorem addArticles (h : corpus.Keeps kept) {α : Type} (article : α → Article) (items : List α) :
    (items.foldl (fun corpus item => corpus.addArticle (article item)) corpus).Keeps
      (kept ++ items.map article) := by
  induction items generalizing corpus kept with
  | nil =>
    rw [List.map_nil, List.append_nil]
    exact h
  | cons item rest ih =>
    rw [List.foldl_cons, List.map_cons, List.append_cons]
    exact ih (h.addArticle (article item))

/-- The entries of a document are added one after the other, each with its articles. -/
theorem addEntries (h : corpus.Keeps kept) (items : List (FeedEntry × Nat)) :
    (items.foldl (fun corpus item => corpus.addEntry item.1 item.2) corpus).Keeps
      (kept ++ items.flatMap fun (entry, index) => entry.articles.zipIdx.map fun (item, place) =>
        item.article (entry.feed index) [index, place]) := by
  induction items generalizing corpus kept with
  | nil =>
    rw [List.flatMap_nil, List.append_nil]
    exact h
  | cons item rest ih =>
    rw [List.foldl_cons, List.flatMap_cons, ← List.append_assoc]
    exact ih ((h.addFeed (item.1.feed item.2)).addArticles _ _)

end Keeps

/-- However a corpus came to be, it keeps the articles that were put into it. -/
theorem Built.keeps {corpus : Corpus} {kept : List Article} (h : Built corpus kept) :
    corpus.Keeps kept := by
  induction h with
  | empty => exact .empty
  | parsed => exact Keeps.empty.addEntries _
  | addFeed _ feed ih => exact ih.addFeed feed
  | addArticle _ article ih => exact ih.addArticle article

/-! ## All feeds -/

/-- For each of these articles there is one feed with the identifier of its own, no more. -/
def HasOneFeedEach (corpus : Corpus) (kept : List Article) : Prop :=
  ∀ article ∈ kept, (corpus.feeds.countP fun feed => feed.id = article.feed.id) = 1

instance (corpus : Corpus) (kept : List Article) : Decidable (corpus.HasOneFeedEach kept) :=
  inferInstanceAs (Decidable (∀ article ∈ kept, _ = 1))

namespace Keeps

variable {corpus : Corpus} {kept : List Article}

/-- Of some feeds those count for an article that have the identifier of its own. -/
theorem count_flatMap_articles (h : corpus.Keeps kept) (feeds : List Feed) (article : Article) :
    (feeds.flatMap corpus.articles).count article =
      kept.count article * feeds.countP fun feed => feed.id = article.feed.id := by
  induction feeds with
  | nil => rfl
  | cons feed rest ih =>
    rw [List.flatMap_cons, List.count_append, ih, h.articles_eq, List.countP_cons]
    by_cases hid : article.feed.id = feed.id
    · rw [List.count_filter (by simpa using hid), if_pos (by simpa using hid.symm), Nat.mul_add,
        Nat.mul_one, Nat.add_comm]
    · have hnone : article ∉ kept.filter fun article => article.feed.id = feed.id := by
        simp [hid]
      rw [List.count_eq_zero_of_not_mem hnone, if_neg (by simpa using Ne.symm hid), Nat.zero_add,
        Nat.add_zero]

theorem listed_perm_iff (h : corpus.Keeps kept) :
    (corpus.feeds.flatMap corpus.articles).Perm kept ↔ corpus.HasOneFeedEach kept := by
  rw [List.perm_iff_count]
  constructor
  · intro hcount article harticle
    have hpos := List.count_pos_iff.mpr harticle
    have heq := hcount article
    rw [h.count_flatMap_articles] at heq
    exact Nat.eq_of_mul_eq_mul_left hpos (heq.trans (Nat.mul_one _).symm)
  · intro hone article
    rw [h.count_flatMap_articles]
    by_cases harticle : article ∈ kept
    · rw [hone article harticle, Nat.mul_one]
    · rw [List.count_eq_zero_of_not_mem harticle, Nat.zero_mul]

/-- Where no two feeds have one identifier, no article has two feeds. -/
theorem hasOneFeedEach (h : corpus.Keeps kept)
    (hnodup : (corpus.feeds.map Feed.id).Nodup) : corpus.HasOneFeedEach kept := by
  intro article harticle
  obtain ⟨feed, hfeed, hid⟩ := h.exists_feed article harticle
  have hone := List.count_eq_one_of_mem hnodup (List.mem_map_of_mem (f := Feed.id) hfeed)
  rw [hid, List.count, List.countP_map] at hone
  exact hone

/-- Nothing is missing from the lists. -/
theorem kept_subperm_listed (h : corpus.Keeps kept) :
    kept.Subperm (corpus.feeds.flatMap corpus.articles) := by
  refine List.subperm_ext_iff.mpr fun article harticle => ?_
  obtain ⟨feed, hfeed, hid⟩ := h.exists_feed article harticle
  have hpos : 0 < corpus.feeds.countP fun feed => feed.id = article.feed.id :=
    List.countP_pos_iff.mpr ⟨feed, hfeed, by simpa using hid⟩
  rw [h.count_flatMap_articles]
  exact Nat.le_mul_of_pos_right _ hpos

theorem sum_lengths_iff (h : corpus.Keeps kept) :
    (corpus.feeds.map fun feed => (corpus.articles feed).length).sum = corpus.articleCount ↔
      corpus.HasOneFeedEach kept := by
  rw [← h.listed_perm_iff, ← List.length_flatMap, h.articleCount_eq]
  constructor
  · intro hlength
    exact (h.kept_subperm_listed.perm_of_length_le (Nat.le_of_eq hlength)).symm
  · exact List.Perm.length_eq

/-- What a scan walks through: recent articles, each once for every feed with the identifier
of its own that keeps its articles. -/
theorem count_scope (h : corpus.Keeps kept) (cutoff : Instant) (article : Article) :
    (Scan.scope corpus cutoff).count article =
      if article.published.Before cutoff then 0
      else kept.count article *
        corpus.feeds.countP fun feed => feed.id = article.feed.id ∧ feed.storesHistory := by
  unfold Scan.scope
  rw [← List.filter_flatMap]
  split
  case isTrue hold =>
    refine List.count_eq_zero_of_not_mem fun hmem => ?_
    exact of_decide_eq_true (List.mem_filter.mp hmem).2 hold
  case isFalse hrecent =>
    rw [List.count_filter (p := fun article : Article => ¬ article.published.Before cutoff)
      (decide_eq_true hrecent), h.count_flatMap_articles, List.countP_filter]
    simp only [Bool.decide_and, Bool.decide_eq_true]

/-- Where no article has two feeds, a scan walks through none more often than it was put into
the corpus. -/
theorem scope_subperm (h : corpus.Keeps kept) (hone : corpus.HasOneFeedEach kept)
    (cutoff : Instant) : (Scan.scope corpus cutoff).Subperm kept := by
  refine List.subperm_ext_iff.mpr fun article _ => ?_
  rw [h.count_scope]
  split
  · exact Nat.zero_le _
  · by_cases hkept : article ∈ kept
    · have hle : (corpus.feeds.countP fun feed => feed.id = article.feed.id ∧ feed.storesHistory) ≤
          1 := by
        rw [← hone article hkept]
        refine List.countP_mono_left fun feed _ hboth => ?_
        exact decide_eq_true (of_decide_eq_true hboth).1
      exact (Nat.mul_le_mul_left _ hle).trans (Nat.le_of_eq (Nat.mul_one _))
    · rw [List.count_eq_zero_of_not_mem hkept, Nat.zero_mul]

end Keeps

/-- What a corpus with these articles lists. -/
structure Lists (corpus : Corpus) (kept : List Article) : Prop where
  articleCount_eq : corpus.articleCount = kept.length
  /-- Under a feed are the articles that came for a feed of that identifier. -/
  articles_eq : ∀ feed, corpus.articles feed = kept.filter fun article => article.feed.id = feed.id
  /-- An article is listed once for every feed with the identifier of its own. -/
  count_listed : ∀ article, (corpus.feeds.flatMap corpus.articles).count article =
    kept.count article * corpus.feeds.countP fun feed => feed.id = article.feed.id
  exists_feed : ∀ article ∈ kept, ∃ feed ∈ corpus.feeds, feed.id = article.feed.id
  hasOneFeedEach : (corpus.feeds.map Feed.id).Nodup → corpus.HasOneFeedEach kept
  listed_perm_iff :
    (corpus.feeds.flatMap corpus.articles).Perm kept ↔ corpus.HasOneFeedEach kept
  sum_lengths_iff :
    (corpus.feeds.map fun feed => (corpus.articles feed).length).sum = corpus.articleCount ↔
      corpus.HasOneFeedEach kept
  /-- A scan counts the articles it walks through. -/
  articlesScanned_eq : ∀ config now,
    (Scan.run? config corpus now).map (fun result => result.stats.articlesScanned) =
      (Scan.cutoff? config now).map fun cutoff => (Scan.scope corpus cutoff).length
  count_scope : ∀ cutoff article, (Scan.scope corpus cutoff).count article =
    if article.published.Before cutoff then 0
    else kept.count article *
      corpus.feeds.countP fun feed => feed.id = article.feed.id ∧ feed.storesHistory
  scope_subperm : corpus.HasOneFeedEach kept → ∀ cutoff, (Scan.scope corpus cutoff).Subperm kept

/-- However a corpus came to be, it lists each of its articles exactly once, and a scan counts
none twice, where no article has two feeds. -/
theorem built_lists {corpus : Corpus} {kept : List Article} (h : Built corpus kept) :
    corpus.Lists kept where
  articleCount_eq := h.keeps.articleCount_eq
  articles_eq := h.keeps.articles_eq
  count_listed := h.keeps.count_flatMap_articles corpus.feeds
  exists_feed := h.keeps.exists_feed
  hasOneFeedEach := h.keeps.hasOneFeedEach
  listed_perm_iff := h.keeps.listed_perm_iff
  sum_lengths_iff := h.keeps.sum_lengths_iff
  articlesScanned_eq config now := by
    rw [Scan.run?, Option.map_map]
    refine congrArg (Option.map · _) (funext fun cutoff => ?_)
    exact Scan.articles_tally corpus cutoff
  count_scope := h.keeps.count_scope
  scope_subperm := h.keeps.scope_subperm

/-- A feed that keeps its articles. -/
def ratedFeed : Feed := ⟨.issued [0], "rated", none, 4, [], true⟩

/-- An article of that feed. -/
def ratedArticle : Article :=
  ⟨.issued [0, 0], "article", ratedFeed, none, ⟨1700000000, 0⟩, false, [], none⟩

/-- A feed that keeps none. -/
def passingFeed : Feed := ⟨.issued [1], "passing", none, -1, [], false⟩

/-- An article of the feed that keeps none. -/
def passingArticle : Article :=
  ⟨.issued [1, 0], "article", passingFeed, none, ⟨1700000000, 0⟩, false, [], none⟩

/-- An article whose feed nobody has added comes between two of a feed that was added. -/
theorem built_lists_unknownFeed :
    let corpus := (((empty.addFeed ratedFeed).addArticle ratedArticle).addArticle
      passingArticle).addArticle ratedArticle
    Built corpus [ratedArticle, passingArticle, ratedArticle] ∧
      corpus.HasOneFeedEach [ratedArticle, passingArticle, ratedArticle] ∧
      corpus.Lists [ratedArticle, passingArticle, ratedArticle] :=
  have h := (((Built.empty.addFeed ratedFeed).addArticle ratedArticle).addArticle
    passingArticle).addArticle ratedArticle
  ⟨h, by decide, built_lists h⟩

/-- A feed that is added again lists its article again: of one article the lists hold two, and
a scan counts two. -/
theorem lists_twice_readded :
    let corpus := ((empty.addFeed ratedFeed).addArticle ratedArticle).addFeed ratedFeed
    Built corpus [ratedArticle] ∧ corpus.articleCount = 1 ∧
      corpus.feeds.flatMap corpus.articles = [ratedArticle, ratedArticle] ∧
      (Scan.run? .default corpus ⟨1700000600, 0⟩).map (fun result => result.stats.articlesScanned) =
        some 2 :=
  ⟨((Built.empty.addFeed ratedFeed).addArticle ratedArticle).addFeed ratedFeed, rfl,
    by decide, by decide +kernel⟩

end LinkDigest.Corpus
