import LinkDigest.Cluster.Basic
import Mathlib.Algebra.BigOperators.Group.List.Basic
import Mathlib.Algebra.Ring.Int.Defs
import Mathlib.Data.List.Induction

/-!
# The contributors of a cluster

Whatever articles are added to a cluster, and in whatever order, it keeps the
first one of each identifier, and its ratings are those of the articles it
keeps.
-/

namespace LinkDigest

/-- The first article of each identifier, in the order of the list. -/
def firstOfEach : List Article → List Article
  | [] => []
  | article :: rest => article :: (firstOfEach rest).filter fun later => later.id ≠ article.id

theorem firstOfEach_eq_nil {articles : List Article} : firstOfEach articles = [] ↔ articles = [] := by
  cases articles <;> simp [firstOfEach]

/-- The same identifiers are there. -/
theorem mem_ids_firstOfEach (articles : List Article) (id : Ident) :
    id ∈ (firstOfEach articles).map Article.id ↔ id ∈ articles.map Article.id := by
  induction articles with
  | nil => rfl
  | cons article rest ih =>
    rw [firstOfEach, List.map_cons, List.map_cons, List.mem_cons, List.mem_cons, ← ih]
    by_cases hid : id = article.id
    · simp [hid]
    · simp only [hid, false_or, List.mem_map, List.mem_filter, decide_eq_true_eq]
      constructor
      · rintro ⟨later, ⟨hlater, -⟩, rfl⟩
        exact ⟨later, hlater, rfl⟩
      · rintro ⟨later, hlater, rfl⟩
        exact ⟨later, ⟨hlater, hid⟩, rfl⟩

/-- No identifier is there twice. -/
theorem nodup_ids_firstOfEach (articles : List Article) :
    ((firstOfEach articles).map Article.id).Nodup := by
  induction articles with
  | nil => exact List.nodup_nil
  | cons article rest ih =>
    rw [firstOfEach, List.map_cons, List.nodup_cons]
    refine ⟨fun hmem => ?_, (List.filter_sublist.map Article.id).nodup ih⟩
    obtain ⟨later, hlater, hid⟩ := List.mem_map.mp hmem
    simpa [hid] using (List.mem_filter.mp hlater).2

/-- What is kept stands in the order of the list. -/
theorem firstOfEach_sublist (articles : List Article) :
    (firstOfEach articles).Sublist articles := by
  induction articles with
  | nil => exact List.Sublist.slnil
  | cons article rest ih => exact (List.filter_sublist.trans ih).cons_cons article

/-- Of articles without a common identifier each is the first. -/
theorem firstOfEach_eq_self {articles : List Article} (h : (articles.map Article.id).Nodup) :
    firstOfEach articles = articles := by
  induction articles with
  | nil => rfl
  | cons article rest ih =>
    rw [List.map_cons, List.nodup_cons] at h
    rw [firstOfEach, ih h.2, List.filter_eq_self.mpr]
    intro later hlater
    have hne : later.id ≠ article.id := fun heq => h.1 (heq ▸ List.mem_map_of_mem hlater)
    simpa using hne

namespace Cluster

/-- The cluster of a link with articles added in order. -/
def ofArticles (url : String) (articles : List Article) : Cluster := articles.foldl add (new url)

theorem ofArticles_append (url : String) (articles : List Article) (article : Article) :
    ofArticles url (articles ++ [article]) = (ofArticles url articles).add article := by
  simp [ofArticles]

@[simp] theorem url_ofArticles (url : String) (articles : List Article) :
    (ofArticles url articles).url = url := by
  induction articles using List.reverseRecOn with
  | nil => rfl
  | append_singleton articles article ih => simp [ofArticles_append, ih]

/-- Nobody has looked for the title of a cluster that is made of articles. -/
@[simp] theorem title_ofArticles (url : String) (articles : List Article) :
    (ofArticles url articles).title = none := by
  induction articles using List.reverseRecOn with
  | nil => rfl
  | append_singleton articles article ih =>
    rw [ofArticles_append, add]
    split
    · exact ih
    · exact ih

theorem articles_add (cluster : Cluster) (article : Article) :
    (cluster.add article).articles =
      if cluster.contains article then cluster.articles else cluster.articles ++ [article] := by
  unfold add
  split <;> rfl

/-- Adding an article a second time changes nothing. -/
@[simp] theorem add_add_self (cluster : Cluster) (article : Article) :
    (cluster.add article).add article = cluster.add article :=
  add_of_contains (contains_add_self cluster article)

/-- An article added once for each link of a list counts once if there is a link. -/
theorem foldl_add_map_const {α : Type} (cluster : Cluster) (article : Article) (links : List α) :
    (links.map fun _ => article).foldl add cluster =
      if links.isEmpty then cluster else cluster.add article := by
  induction links generalizing cluster with
  | nil => rfl
  | cons link links ih =>
    rw [List.map_cons, List.foldl_cons, ih, add_add_self]
    cases links <;> rfl

/-! ## What is kept -/

theorem contains_congr (cluster : Cluster) {a b : Article} (h : a.id = b.id) :
    cluster.contains a = cluster.contains b := by
  simp [contains, h]

theorem contains_add {cluster : Cluster} {article : Article} (hnew : ¬ cluster.contains article)
    (later : Article) : (cluster.add article).contains later =
      (cluster.contains later || decide (later.id = article.id)) := by
  have hadd : (cluster.add article).articles = cluster.articles ++ [article] := by
    rw [articles_add, if_neg hnew]
  unfold contains
  rw [hadd, List.any_append]
  simp only [List.any_cons, List.any_nil, Bool.or_false]
  congr 1
  exact decide_eq_decide.mpr eq_comm

/-- Articles added to a cluster follow those it has, as far as they are new. -/
theorem articles_foldl_add (articles : List Article) (cluster : Cluster) :
    (articles.foldl add cluster).articles =
      cluster.articles ++ (firstOfEach articles).filter fun article => !cluster.contains article := by
  induction articles generalizing cluster with
  | nil => simp [firstOfEach]
  | cons article rest ih =>
    rw [List.foldl_cons, ih, articles_add, firstOfEach, List.filter_cons, List.filter_filter]
    by_cases hknown : cluster.contains article
    · -- the article is refused, and so is every later one of its identifier
      rw [add_of_contains hknown, if_pos hknown]
      simp only [hknown, Bool.not_true, Bool.false_eq_true, if_false]
      congr 1
      apply List.filter_congr
      intro later _
      by_cases hid : later.id = article.id
      · simp [hid, contains_congr cluster hid, hknown]
      · simp [hid]
    · simp only [hknown, Bool.false_eq_true, if_false, Bool.not_false, if_true,
        contains_add hknown]
      rw [List.append_assoc, List.singleton_append]
      congr 2
      apply List.filter_congr
      intro later _
      simp

/-- A cluster keeps the first article of each identifier. -/
@[simp] theorem articles_ofArticles (url : String) (articles : List Article) :
    (ofArticles url articles).articles = firstOfEach articles := by
  unfold ofArticles
  rw [articles_foldl_add]
  simp [new, contains]

/-! ## Ratings -/

/-- The ratings of the rated feeds among those of articles. -/
def ratings (articles : List Article) : List Int :=
  (articles.filter fun article => article.feed.rating ≠ Feed.unrated).map fun article =>
    article.feed.rating

/-- The sum and the count of a cluster are those of the ratings of its articles. -/
structure RatingsAgree (cluster : Cluster) : Prop where
  ratingSum : cluster.ratingSum = (ratings cluster.articles).sum
  ratingCount : cluster.ratingCount = (ratings cluster.articles).length

theorem RatingsAgree.new (url : String) : RatingsAgree (Cluster.new url) := ⟨rfl, rfl⟩

theorem RatingsAgree.add {cluster : Cluster} (h : cluster.RatingsAgree) (article : Article) :
    (cluster.add article).RatingsAgree := by
  obtain ⟨hsum, hcount⟩ := h
  unfold Cluster.add
  by_cases hknown : cluster.contains article
  · rw [if_pos hknown]
    exact ⟨hsum, hcount⟩
  · rw [if_neg hknown]
    have happend : ratings (cluster.articles ++ [article]) = ratings cluster.articles ++
        if article.feed.isRated then [article.feed.rating] else [] := by
      by_cases hrated : article.feed.rating = Feed.unrated <;>
        simp [ratings, Feed.isRated, hrated]
    constructor
    · simp only [happend, List.sum_append, hsum]
      split <;> simp
    · simp only [happend, List.length_append, hcount]
      split <;> simp

theorem ratingsAgree_ofArticles (url : String) (articles : List Article) :
    (ofArticles url articles).RatingsAgree := by
  have hfold : ∀ cluster : Cluster, cluster.RatingsAgree →
      (articles.foldl add cluster).RatingsAgree := by
    induction articles with
    | nil => intro cluster h; exact h
    | cons article rest ih =>
      intro cluster h
      exact ih _ (h.add article)
  exact hfold (new url) (.new url)

end Cluster

end LinkDigest
