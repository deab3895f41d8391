import LinkDigest.Proofs.Cluster.Ledger
import Mathlib.Data.Finset.Card

/-!
# What a cluster has been given

Articles and titles are given to a cluster in any order. Titles do not touch the articles, so
that it is at any time the cluster of the articles given until then, under the last title; and
an article is answered as new just if none of its identifier was given before. What is kept in
words goes the same way.
-/

namespace LinkDigest

/-- An article is kept if it is the first one of its identifier. -/
theorem mem_firstOfEach_iff {articles : List Article} {article : Article} :
    article ∈ firstOfEach articles ↔
      articles.find? (fun known => known.id = article.id) = some article := by
  induction articles with
  | nil => simp [firstOfEach]
  | cons first rest ih =>
    rw [firstOfEach, List.mem_cons, List.mem_filter, ih]
    by_cases hid : first.id = article.id
    · rw [List.find?_cons_of_pos (by simpa using hid)]
      simp [hid, eq_comm]
    · rw [List.find?_cons_of_neg (by simpa using hid)]
      have hne : article ≠ first := fun heq => hid (heq ▸ rfl)
      simp [hne, Ne.symm hid]

namespace Cluster

/-! ## Runs -/

/-- What can be done with a cluster. -/
inductive Action where
  | add (article : Article)
  | setTitle (title : String)
deriving DecidableEq, Repr

/-- What was done with a cluster, and what it answered. -/
inductive Note where
  | added (article : Article) (isNew : Bool)
  | titled (title : String)
deriving DecidableEq, Repr

/-- A cluster with what was done with it, the last first. -/
structure Log where
  cluster : Cluster
  past : List Note

def Log.act (log : Log) : Action → Log
  | .add article =>
    ⟨log.cluster.add article, .added article (!log.cluster.contains article) :: log.past⟩
  | .setTitle title => ⟨log.cluster.withTitle title, .titled title :: log.past⟩

/-- The cluster of a link after some actions. -/
def run (url : String) (actions : List Action) : Log := actions.foldl Log.act ⟨new url, []⟩

/-! ## The reference -/

def Action.article? : Action → Option Article
  | add article => some article
  | setTitle _ => none

def Action.title? : Action → Option String
  | add _ => none
  | setTitle title => some title

namespace Note

/-- What was done. -/
def action : Note → Action
  | added article _ => .add article
  | titled title => .setTitle title

/-- Whether an answer is right after what was done before: an article is new if none of its
identifier was given. -/
def IsRight (past : List Note) : Note → Prop
  | added article isNew => isNew ↔
      ∀ known ∈ (past.map action).filterMap Action.article?, known.id ≠ article.id
  | titled _ => True

end Note

/-- Whether a cluster is what has to come of the articles given to it. -/
structure Records (cluster : Cluster) (given : List Article) : Prop where
  articles : cluster.articles = firstOfEach given
  mem_articles : ∀ article, article ∈ cluster.articles ↔
    given.find? (fun known => known.id = article.id) = some article
  nodup_ids : (cluster.articles.map Article.id).Nodup
  contains : ∀ article, cluster.contains article ↔ ∃ known ∈ given, known.id = article.id
  referenceCount : cluster.referenceCount = cluster.articles.length
  /-- There are as many articles as identifiers were given. -/
  card_ids : cluster.referenceCount = (given.map Article.id).toFinset.card
  ratingCount : cluster.ratingCount = (ratings cluster.articles).length
  ratingSum : cluster.ratingSum = (ratings cluster.articles).sum

/-! ## What every action keeps -/

/-- The cluster of a link with articles, under the last of some titles. -/
def titled (url : String) (articles : List Article) (titles : List String) : Cluster :=
  { ofArticles url articles with title := titles.getLast? }

variable {url : String} {articles : List Article} {titles : List String}

/-- What a cluster contains does not depend on its titles. -/
theorem contains_titled {article : Article} : (titled url articles titles).contains article =
    (ofArticles url articles).contains article := rfl

theorem contains_titled_iff {article : Article} :
    (titled url articles titles).contains article ↔ ∃ known ∈ articles, known.id = article.id := by
  rw [contains_titled, contains_iff_mem_seen, toLedger, articles_ofArticles, List.mem_toFinset,
    mem_ids_firstOfEach, List.mem_map]

theorem records_titled (url : String) (articles : List Article) (titles : List String) :
    (titled url articles titles).Records articles := by
  have harticles : (titled url articles titles).articles = firstOfEach articles :=
    articles_ofArticles url articles
  have hnodup : ((titled url articles titles).articles.map Article.id).Nodup :=
    harticles ▸ nodup_ids_firstOfEach articles
  obtain ⟨hsum, hcount⟩ := ratingsAgree_ofArticles url articles
  refine ⟨harticles, fun article => ?_, hnodup, fun article => contains_titled_iff, rfl, ?_,
    hcount, hsum⟩
  · rw [harticles, mem_firstOfEach_iff]
  · have hids : (articles.map Article.id).toFinset =
        ((titled url articles titles).articles.map Article.id).toFinset := by
      ext id
      rw [List.mem_toFinset, List.mem_toFinset, harticles, mem_ids_firstOfEach]
    rw [hids, List.toFinset_card_of_nodup hnodup, List.length_map]
    rfl

/-- An article is added under a title as it is without one. -/
theorem add_titled (article : Article) :
    (titled url articles titles).add article = titled url (articles ++ [article]) titles := by
  rw [add, contains_titled]
  unfold titled
  rw [ofArticles_append, add]
  split <;> rfl

theorem withTitle_titled (title : String) :
    (titled url articles titles).withTitle title = titled url articles (titles ++ [title]) := by
  rw [titled, titled, List.getLast?_concat]
  rfl

theorem run_concat (url : String) (actions : List Action) (action : Action) :
    run url (actions ++ [action]) = (run url actions).act action := by
  rw [run, List.foldl_concat]
  rfl

/-- A cluster is at any time that of the articles given to it, under the last title. -/
theorem cluster_run (url : String) (actions : List Action) : (run url actions).cluster =
    titled url (actions.filterMap Action.article?) (actions.filterMap Action.title?) := by
  induction actions using List.reverseRecOn with
  | nil => rfl
  | append_singleton actions action ih =>
    rw [run_concat, List.filterMap_append, List.filterMap_append]
    cases action with
    | add article =>
      show (run url actions).cluster.add article =
        titled url (actions.filterMap Action.article? ++ [article])
          (actions.filterMap Action.title? ++ [])
      rw [ih, add_titled, List.append_nil]
    | setTitle title =>
      show (run url actions).cluster.withTitle title =
        titled url (actions.filterMap Action.article? ++ [])
          (actions.filterMap Action.title? ++ [title])
      rw [ih, withTitle_titled, List.append_nil]

/-- Everything that was done is noted. -/
theorem past_run (url : String) (actions : List Action) :
    (run url actions).past.map Note.action = actions.reverse := by
  induction actions using List.reverseRecOn with
  | nil => rfl
  | append_singleton actions action ih =>
    rw [run_concat, List.reverse_concat, ← ih]
    cases action with
    | add article => rfl
    | setTitle title => rfl

/-- An article is answered as new just if none of its identifier was given before. -/
theorem answers_run (url : String) (actions : List Action) :
    ∀ note before, note :: before <:+ (run url actions).past → note.IsRight before := by
  induction actions using List.reverseRecOn with
  | nil =>
    intro note before hsuffix
    cases List.suffix_nil.mp hsuffix
  | append_singleton actions action ih =>
    intro note before hsuffix
    rw [run_concat] at hsuffix
    cases action with
    | add article =>
      rcases List.suffix_cons_iff.mp hsuffix with heq | hsuffix
      · cases heq
        rw [Note.IsRight, past_run, cluster_run, Bool.not_eq_true', ← Bool.not_eq_true,
          contains_titled_iff]
        simp [List.filterMap_reverse]
      · exact ih note before hsuffix
    | setTitle title =>
      rcases List.suffix_cons_iff.mp hsuffix with heq | hsuffix
      · cases heq
        trivial
      · exact ih note before hsuffix

/-- A cluster holds the first article given of each identifier, in their order, and no others;
its counts and its sum are those of what it holds, and its link stays. Each article is answered
as new just if none of its identifier was given before. What is kept in words says the same,
if ratings have 32 bits and there are fewer than 2^32 articles. -/
theorem run_records (url : String) (actions : List Action) :
    let log := run url actions
    let given := actions.filterMap Action.article?
    log.cluster.Records given ∧ log.cluster.url = url ∧
    log.cluster.title = (actions.filterMap Action.title?).getLast? ∧
    log.past.map Note.action = actions.reverse ∧
    (∀ note before, note :: before <:+ log.past → note.IsRight before) ∧
    ((∀ article ∈ given, article.feed.HasShortRating) →
      log.cluster.referenceCount < UInt32.size → (Ledger.ofArticles given).Keeps log.cluster) := by
  intro log given
  have hcluster : log.cluster = titled url given (actions.filterMap Action.title?) :=
    cluster_run url actions
  rw [hcluster]
  refine ⟨records_titled .., url_ofArticles url given, rfl, past_run url actions,
    answers_run url actions, fun hshort hfew => ?_⟩
  obtain ⟨hkept, hseen, hsum, hcount⟩ := Ledger.keeps_ofArticles hshort url hfew
  exact ⟨hkept, hseen, hsum, hcount⟩

end Cluster

end LinkDigest
