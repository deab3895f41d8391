import LinkDigest.Filter.Pipeline
import Mathlib.Data.List.Basic

/-!
# Stricter filters

A filter that is stricter in every setting shows no cluster that was not shown before, the
clusters it shows keep their order, and none of them has an article that it was not shown
with. Some settings depend on others: fewer articles count, and these may then be too few
or of one feed only.
-/

namespace LinkDigest

/-- How far back an option lets articles lie, among the options. -/
def TimeOption.reach : TimeOption → Nat
  | all => 2
  | thisWeek => 1
  | today => 0

/-- No setting of the second filter lets through what that of the first does not. -/
structure Filter.Tightens (loose tight : Filter) : Prop where
  unreadOnly : loose.unreadOnly → tight.unreadOnly
  suppressSelf : loose.suppressSelf → tight.suppressSelf
  suppressSingleSource : loose.suppressSingleSource → tight.suppressSingleSource
  minRating : loose.minRating ≤ tight.minRating
  time : tight.time.reach ≤ loose.time.reach
  guide : loose.guide = none ∨ loose.guide = tight.guide
  ignored : ∀ url, loose.isIgnored url → tight.isIgnored url

/-! ## Articles -/

/-- What lies before an earlier time lies before a later one. -/
theorem Instant.Before.shift {t now : Instant} {age shorter : Nat} (h : t.Before (now.shift (-age)))
    (hpos : 0 < shorter) (hle : shorter ≤ age) : t.Before (now.shift (-shorter)) := by
  unfold Instant.shift Before at *
  split at h
  · rw [if_pos (by omega)]
    dsimp only at *
    omega
  · rw [if_neg (by omega), if_neg (by omega)]
    rw [if_neg (by omega)] at h
    dsimp only at *
    omega

namespace Filter

theorem articlePasses_iff {filter : Filter} {linkHost : Option (List Char)} {now : Instant}
    {article : Article} : filter.articlePasses linkHost now article ↔
      (filter.unreadOnly → article.read = false) ∧ isTooOld filter now article = false ∧
      (anyRating < filter.minRating → filter.minRating ≤ article.feed.rating) ∧
      (filter.suppressSelf → isSelfReference linkHost article = false) ∧
      ∀ guide, filter.guide = some guide → article.feed.belongsTo guide := by
  unfold articlePasses
  cases filter.guide <;> grind

variable {loose tight : Filter}

/-- An option that reaches less far back has a greatest age if the other one has, and not a
greater one. -/
theorem Tightens.maxAge? (h : loose.Tightens tight) {age : Nat}
    (hage : loose.time.maxAge? = some age) :
    ∃ shorter, tight.time.maxAge? = some shorter ∧ 0 < shorter ∧ shorter ≤ age := by
  have hreach := h.time
  revert hreach hage
  cases loose.time <;> cases tight.time <;> simp [TimeOption.reach, TimeOption.maxAge?] <;> omega

theorem Tightens.isTooOld (h : loose.Tightens tight) {now : Instant} {article : Article}
    (hold : loose.isTooOld now article) : tight.isTooOld now article := by
  unfold Filter.isTooOld at *
  cases hage : loose.time.maxAge? with
  | none => simp [hage] at hold
  | some age =>
    obtain ⟨shorter, hshorter, hpos, hle⟩ := h.maxAge? hage
    simp only [hage, decide_eq_true_eq] at hold
    simp only [hshorter, decide_eq_true_eq]
    exact hold.shift hpos hle

/-- An article that counts counted before. -/
theorem Tightens.articlePasses (h : loose.Tightens tight) {linkHost : Option (List Char)}
    {now : Instant} {article : Article} (hpasses : tight.articlePasses linkHost now article) :
    loose.articlePasses linkHost now article := by
  obtain ⟨hunread, hage, hrating, hself, hguide⟩ := articlePasses_iff.mp hpasses
  refine articlePasses_iff.mpr ⟨fun hset => hunread (h.unreadOnly hset), ?_, fun hset => ?_,
    fun hset => hself (h.suppressSelf hset), fun guide hset => ?_⟩
  · rw [← Bool.not_eq_true] at *
    exact fun hold => hage (h.isTooOld hold)
  · -- A rating that lets all feeds through is the least strict one.
    have hle := h.minRating
    have hfeed := hrating (Int.lt_of_lt_of_le hset hle)
    exact Int.le_trans hle hfeed
  · rcases h.guide with hnone | hsame
    · exact nomatch hnone.symm.trans hset
    · exact hguide guide (hsame ▸ hset)

end Filter

/-! ## Clusters -/

namespace Pipeline

variable {loose tight : Filter}

theorem survivors_sublist (h : loose.Tightens tight) (now : Instant) (cluster : Cluster) :
    (survivors tight now cluster).Sublist (survivors loose now cluster) :=
  List.monotone_filter_right _ fun _ hpasses => h.articlePasses hpasses

/-- Fewer than two feeds are one feed for all. -/
theorem length_distinctFeeds_lt_two {articles : List Article} :
    (distinctFeeds articles).length < 2 ↔
      ∀ a ∈ articles, ∀ b ∈ articles, a.feed.id = b.feed.id := by
  unfold distinctFeeds
  cases articles with
  | nil => simp
  | cons first rest =>
    rw [List.map_cons, List.eraseDups_cons, List.length_cons, Nat.succ_lt_succ_iff,
      Nat.lt_one_iff, List.length_eq_zero_iff, List.eq_nil_iff_forall_not_mem]
    simp only [List.mem_eraseDups, List.mem_filter, List.mem_map]
    constructor
    · intro hnone
      have hfirst : ∀ a ∈ first :: rest, a.feed.id = first.feed.id := by
        intro a ha
        rcases List.mem_cons.mp ha with rfl | hrest
        · rfl
        · by_contra hne
          exact hnone a.feed.id ⟨⟨a, hrest, rfl⟩, by simpa using hne⟩
      exact fun a ha b hb => (hfirst a ha).trans (hfirst b hb).symm
    · rintro hsame _ ⟨⟨a, ha, rfl⟩, hne⟩
      simp [hsame a (List.mem_cons_of_mem _ ha) first List.mem_cons_self] at hne

/-- Whether a cluster is shown when there are no rules of the caller's. -/
structure Admits (minReferences : Nat) (filter : Filter) (now : Instant) (cluster : Cluster) :
    Prop where
  unignored : filter.isIgnored cluster.url.toList = false
  enough : minReferences ≤ (survivors filter now cluster).length
  sources : filter.suppressSingleSource →
    ¬ (distinctFeeds (survivors filter now cluster)).length < 2

theorem evaluate_new_eq_some {minReferences : Nat} {filter : Filter} {now : Instant}
    {cluster : Cluster} {shown : VisibleCluster} :
    (new minReferences).evaluate filter now cluster = some shown ↔
      Admits minReferences filter now cluster ∧ shown = ⟨cluster, survivors filter now cluster⟩ := by
  simp only [evaluate, new, List.any_nil, Bool.false_eq_true, if_false,
    Option.ite_none_left_eq_some, Option.some.injEq]
  constructor
  · rintro ⟨hunignored, henough, hsources, rfl⟩
    exact ⟨⟨by simpa using hunignored, Nat.le_of_not_lt henough,
      fun hset => by simpa [hset] using hsources⟩, rfl⟩
  · rintro ⟨⟨hunignored, henough, hsources⟩, rfl⟩
    exact ⟨by simp [hunignored], Nat.not_lt.mpr henough, by simpa using hsources, rfl⟩

/-- A cluster that is shown was shown before. -/
theorem Admits.loosen {few many : Nat} {now : Instant} {cluster : Cluster}
    (hshown : Admits many tight now cluster) (h : loose.Tightens tight) (hle : few ≤ many) :
    Admits few loose now cluster := by
  have hsublist := survivors_sublist h now cluster
  refine ⟨?_, Nat.le_trans hle (Nat.le_trans hshown.enough hsublist.length_le), fun hset hone => ?_⟩
  · have hignored := h.ignored cluster.url.toList
    rw [← Bool.not_eq_true]
    exact fun hloose => by simpa [hshown.unignored] using hignored hloose
  · refine hshown.sources (h.suppressSingleSource hset) (length_distinctFeeds_lt_two.mpr ?_)
    intro a ha b hb
    exact length_distinctFeeds_lt_two.mp hone a (hsublist.subset ha) b (hsublist.subset hb)

theorem mem_apply_new {minReferences : Nat} {filter : Filter} {now : Instant}
    {clusters : List Cluster} {shown : VisibleCluster}
    (h : shown ∈ (new minReferences).apply filter now clusters) :
    shown.articles = survivors filter now shown.cluster := by
  obtain ⟨cluster, -, hshown⟩ := List.mem_filterMap.mp h
  obtain ⟨-, rfl⟩ := evaluate_new_eq_some.mp hshown
  rfl

/-- The clusters that are shown are among all clusters, in their order. -/
theorem map_cluster_apply_new (minReferences : Nat) (filter : Filter) (now : Instant)
    (clusters : List Cluster) :
    ((new minReferences).apply filter now clusters).map VisibleCluster.cluster =
      clusters.filter fun cluster => ((new minReferences).evaluate filter now cluster).isSome := by
  induction clusters with
  | nil => rfl
  | cons cluster rest ih =>
    unfold apply at *
    cases hshown : (new minReferences).evaluate filter now cluster with
    | none => simpa [hshown] using ih
    | some shown =>
      obtain ⟨-, rfl⟩ := evaluate_new_eq_some.mp hshown
      simpa [hshown] using ih

/-- Where the earliest time that would do is a date, nothing fails. -/
theorem visible?_eq_some (pipeline : Pipeline) {filter : Filter} {now : Instant}
    (hdate : ∀ age ∈ filter.time.maxAge?, (now.shift (-(age : Nat))).hasDate)
    (clusters : List Cluster) :
    pipeline.visible? filter now clusters = some (pipeline.apply filter now clusters) := by
  unfold visible? asksForAge
  cases hage : filter.time.maxAge? with
  | none => simp
  | some age => simp [hdate age hage]

/-- A stricter filter, and a pipeline that asks for more articles, show clusters that were
shown before, in the same order, each with articles that it was shown with before. Both
show what they let through wherever the earliest times that would do are dates. -/
theorem apply_tightened {loose tight : Filter} (h : loose.Tightens tight) {few many : Nat}
    (hle : few ≤ many) (now : Instant) (clusters : List Cluster) :
    let before := (new few).apply loose now clusters
    let after := (new many).apply tight now clusters
    (after.map VisibleCluster.cluster).Sublist (before.map VisibleCluster.cluster) ∧
    (∀ shown ∈ after, ∀ earlier ∈ before, shown.cluster = earlier.cluster →
      shown.articles.Sublist earlier.articles) ∧
    ((∀ filter ∈ [loose, tight], ∀ age ∈ filter.time.maxAge?, (now.shift (-(age : Nat))).hasDate) →
      (new few).visible? loose now clusters = some before ∧
      (new many).visible? tight now clusters = some after) := by
  intro before after
  refine ⟨?_, ?_, fun hdate => ⟨?_, ?_⟩⟩
  · rw [map_cluster_apply_new, map_cluster_apply_new]
    refine List.monotone_filter_right _ fun cluster hshown => ?_
    obtain ⟨shown, hshown⟩ := Option.isSome_iff_exists.mp hshown
    obtain ⟨hadmits, -⟩ := evaluate_new_eq_some.mp hshown
    exact Option.isSome_iff_exists.mpr
      ⟨_, evaluate_new_eq_some.mpr ⟨hadmits.loosen h hle, rfl⟩⟩
  · intro shown hshown earlier hearlier hsame
    rw [mem_apply_new hshown, mem_apply_new hearlier, hsame]
    exact survivors_sublist h now earlier.cluster
  · exact visible?_eq_some _ (hdate loose (by simp)) clusters
  · exact visible?_eq_some _ (hdate tight (by simp)) clusters

/-- A week of unread articles, but for those on a page of advertisements. -/
def unreadWeek : Filter :=
  { Filter.default with
    ignored := [.ofText "ads.test".toList], unreadOnly := true, time := .thisWeek }

/-- Of those, what two well rated feeds of a guide published today about other sites. -/
def sharedToday : Filter :=
  { unreadWeek with
    ignored := unreadWeek.ignored ++ [.ofText "x.*/c".toList], suppressSelf := true
    suppressSingleSource := true, guide := some "tech", minRating := 4, time := .today }

/-- Three pages: one cited by two feeds of a guide and by one that is not rated, one cited
by only one feed within a day, and one on no day since. -/
def citedPages : List Cluster :=
  let feed (id : Nat) (rating : Int) (guides : List String) : Feed :=
    ⟨.issued [id], "feed", some "http://y.test/", rating, guides, true⟩
  let article (id : Nat) (feed : Feed) (hours : Nat) : Article :=
    ⟨.issued [id], "article", feed, none, ⟨1700000000 - 3600 * hours, 0⟩, false, [], none⟩
  let one := article 3 (feed 0 5 ["tech"]) 1
  let two := article 4 (feed 1 4 ["news", "tech"]) 23
  let unrated := article 5 (feed 2 (-1) []) 2
  let old := article 6 (feed 1 4 ["news", "tech"]) 30
  [[one, two, unrated, old].foldl Cluster.add (.new "http://x.test/a"),
    [one, old].foldl Cluster.add (.new "http://x.test/b"),
    [one, two].foldl Cluster.add (.new "http://x.test/c")]

theorem apply_tightened_citedPages :
    unreadWeek.Tightens sharedToday ∧ 1 ≤ 2 ∧
    let before := (new 1).apply unreadWeek ⟨1700000000, 0⟩ citedPages
    let after := (new 2).apply sharedToday ⟨1700000000, 0⟩ citedPages
    before.map (fun shown => (shown.cluster.url, shown.articles.length)) =
      [("http://x.test/a", 4), ("http://x.test/b", 2), ("http://x.test/c", 2)] ∧
    after.map (fun shown => (shown.cluster.url, shown.articles.length)) =
      [("http://x.test/a", 2)] ∧
    (after.map VisibleCluster.cluster).Sublist (before.map VisibleCluster.cluster) ∧
    (∀ shown ∈ after, ∀ earlier ∈ before, shown.cluster = earlier.cluster →
      shown.articles.Sublist earlier.articles) ∧
    (new 1).visible? unreadWeek ⟨1700000000, 0⟩ citedPages = some before ∧
    (new 2).visible? sharedToday ⟨1700000000, 0⟩ citedPages = some after := by
  have htightens : unreadWeek.Tightens sharedToday := by
    refine ⟨by decide, by decide, by decide, by decide, by decide, by decide, fun url hurl => ?_⟩
    rw [Filter.isIgnored, sharedToday, List.any_append, Bool.or_eq_true]
    exact .inl hurl
  obtain ⟨hclusters, harticles, hvisible⟩ :=
    apply_tightened htightens (show 1 ≤ 2 by decide) ⟨1700000000, 0⟩ citedPages
  exact ⟨htightens, by decide, by decide +kernel, by decide +kernel, hclusters, harticles,
    hvisible (by decide)⟩

end Pipeline

end LinkDigest
