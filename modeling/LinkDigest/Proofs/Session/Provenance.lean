import LinkDigest.Proofs.Scan.Aggregation
import LinkDigest.Proofs.Session.Announcement
import LinkDigest.Proofs.Session.Resolution
import LinkDigest.Proofs.Title.Truth

/-!
# Where titles come from

Whatever is done with a session, as long as nobody else writes into its cache all
titles in it are the ones their links have: those kept for later, those of the
clusters of all scans, and those the reader is told of. Scans bring no titles with
them, and reviews tell only of those that are there.
-/

namespace LinkDigest

variable {finds : String → String → Prop}

namespace Session

variable {session : Session}

theorem truthful_store (h : session.resolver.Truthful finds) {clusters : List Cluster}
    (huntitled : ∀ cluster ∈ clusters, cluster.title = none) :
    (session.store clusters).resolver.Truthful finds where
  finds_eq := h.finds_eq
  sound := sound_store h.sound clusters
  tended hrunning := tended_store (h.tended hrunning) clusters
  isTrue := by
    refine ⟨h.isTrue.cache, ?_, ?_, h.isTrue.events⟩
    · intro cluster hcluster title htitle
      rcases List.mem_append.mp hcluster with hold | hnew
      · have hlinks := (session.board.sameHidden_retain (clusters.map Cluster.url)).links
        have hkept : cluster ∈ session.board.links := hlinks ▸ hold
        exact h.isTrue.titles cluster hkept title htitle
      · rw [huntitled cluster hnew] at htitle
        cases htitle
    · exact h.isTrue.titled.of_sameSearches h.sound (session.sameSearches_store clusters)

/-- What is told of a group that is shown is as true as the board. -/
theorem isTrue_announcement {board : Board}
    (htitles : ∀ cluster ∈ board.links, ∀ title, cluster.title = some title →
      finds cluster.url title) (htitled : board.Titled) {id : GroupId} {event : Event}
    (hevent : event ∈ announcement board id) : event.IsTrue finds := by
  rcases mem_announcement hevent with ⟨view, hview, rfl⟩ | ⟨seq, item, rfl⟩
  · obtain ⟨group, cluster, hgroup, hcluster, rfl⟩ := Board.exists_of_view? hview
    cases htitle : cluster.title with
    | some title =>
      refine .inl ?_
      have hname : (group.view cluster).title = title := by
        simp [Group.view, Cluster.displayName, htitle]
      rw [hname]
      exact htitles cluster (List.mem_of_getElem? hcluster) title htitle
    | none =>
      -- Without a title the link is told, and the search for it has not ended well.
      refine .inr ⟨by simp [Group.view, Cluster.displayName, htitle], ?_⟩
      have hopen : group.resolution ≠ .resolved := fun hdone => by
        have hsome := htitled id group cluster hgroup hdone hcluster
        rw [htitle] at hsome
        cases hsome
      simp [Group.view, hopen]
  · trivial

theorem truthful_announced (h : session.resolver.Truthful finds) (now : Instant) :
    (session.announced now).2.Truthful finds := by
  obtain ⟨hsound, hlinks⟩ := sound_announced h.sound now
  have htitles : ∀ cluster ∈ (session.announced now).2.desk.board.links, ∀ title,
      cluster.title = some title → finds cluster.url title := by
    rw [hlinks]
    exact h.isTrue.titles
  have htitled : (session.announced now).2.desk.board.Titled :=
    h.isTrue.titled.of_sameSearches h.sound (sameSearches_announced h.sound now)
  refine ⟨h.finds_eq, hsound, fun hrunning => ?_, h.isTrue.cache, htitles, htitled, ?_⟩
  · exact tended_announced (h.tended ((session.isStopped_announced now).symm.trans hrunning)) now
  · rw [log_announced]
    intro event hevent
    rcases List.mem_append.mp hevent with hold | hnew
    · exact h.isTrue.events event hold
    · rcases List.mem_cons.mp hnew with rfl | hgroup
      · trivial
      · obtain ⟨id, -, hevent⟩ := List.mem_flatMap.mp hgroup
        exact isTrue_announcement htitles htitled hevent

end Session

/-! ## Whatever is done -/

namespace Course

theorem truthful_start (config : Config) (rules : Rules) (network : Network) (metrics : Metrics)
    (filter : Filter) (indexes : Text.Indexes) :
    (start config rules network metrics filter indexes).session.resolver.Truthful
      (FindsTitle rules network indexes config.resolver.scanLimit) where
  finds_eq := rfl
  sound := Board.Sound.empty
  tended _ := (Attended.start config rules network metrics filter indexes).tended
  isTrue :=
    { cache := fun _ _ hentry => absurd hentry List.not_mem_nil
      titles := fun _ hcluster => absurd hcluster List.not_mem_nil
      titled := .empty
      events := fun _ hevent => absurd hevent List.not_mem_nil }

theorem truthful_step {course : Course} (h : course.session.resolver.Truthful finds)
    {action : Session.Action} (hput : ∀ url title, action ≠ .resolver (.put url title)) :
    (course.step action).session.resolver.Truthful finds := by
  refine step_induction (P := fun course => course.session.resolver.Truthful finds) h
    ?_ ?_ ?_ ?_
  · intro pipeline filter
    exact h
  · rintro step rfl
    refine h.act fun url title heq => ?_
    exact hput url title (by rw [heq])
  · intro corpus now result hscan
    exact Session.truthful_store h (Scan.title_of_run? hscan)
  · intro course now h
    exact (Session.truthful_announced h now).resolveAll _

theorem truthful_run {course : Course} (h : course.session.resolver.Truthful finds)
    {actions : List Session.Action}
    (hput : ∀ url title, .resolver (.put url title) ∉ actions) :
    (course.run actions).session.resolver.Truthful finds :=
  run_induction_of_mem (P := fun course => course.session.resolver.Truthful finds)
    (fun _ _ hmem h => truthful_step h fun url title heq => hput url title (heq ▸ hmem)) h

end Course

/-- As long as nobody else writes into its cache, all titles that a session keeps,
shows and tells of are those that the links have by the rules and by their pages, and
these are never blank. Updates tell of titles found, and every group whose search
ended well has a title. -/
theorem Session.run_names (config : Config) (rules : Rules) (network : Network)
    (metrics : Metrics) (filter : Filter) (indexes : Text.Indexes) (actions : List Session.Action)
    (hput : ∀ url title, .resolver (.put url title) ∉ actions) :
    let session := ((Course.start config rules network metrics filter indexes).run actions).session
    let title := titleOf rules network indexes config.resolver.scanLimit
    (∀ url, Rules.isBlankText (title url).toList = false) ∧
    (∀ url text, (url, text) ∈ session.resolver.desk.cache.entries → text = title url) ∧
    (∀ cluster ∈ session.board.links, ∀ text, cluster.title = some text →
      text = title cluster.url) ∧
    (∀ view, .groupUpdated view ∈ session.delivered →
      view.title = title view.url ∧ view.isResolved = true) ∧
    ∀ group ∈ session.board.groups, group.resolution = .resolved →
      ∃ cluster, session.board.links[group.link]? = some cluster ∧ cluster.title.isSome := by
  intro session title
  have htruthful := Course.truthful_run
    (Course.truthful_start config rules network metrics filter indexes) hput
  have htrue := htruthful.isTrue
  refine ⟨isBlankText_titleOf rules network indexes _, ?_, ?_, ?_, ?_⟩
  · intro url text hentry
    exact (htrue.cache url text hentry).1
  · intro cluster hcluster text htext
    exact (htrue.titles cluster hcluster text htext).1
  · intro view hview
    obtain ⟨hfinds, hresolved⟩ := htrue.events _ (List.mem_append_left _ hview)
    exact ⟨hfinds.1, hresolved⟩
  · intro group hgroup hdone
    obtain ⟨id, hplace⟩ := List.mem_iff_getElem?.mp hgroup
    obtain ⟨cluster, hcluster, -⟩ := htruthful.sound.exists_cluster hplace
    exact ⟨cluster, hcluster, htrue.titled id group cluster hplace hdone hcluster⟩

/-- Two feeds with an article each that cites the same page. -/
def citing (url : String) : Corpus :=
  let feed (name : String) (n : Nat) : Feed := ⟨.issued [n], name, none, 3, [], true⟩
  let article (feed : Feed) (n : Nat) : Article :=
    ⟨.issued [n], "post", feed, none, ⟨1700000000, 0⟩, false, [url], none⟩
  ⟨[⟨feed "one" 0, [article (feed "one" 0) 2]⟩, ⟨feed "two" 1, [article (feed "two" 1) 3]⟩]⟩

/-- The answers come only when they are released, and are pages that have a title and
break off after it. -/
def brokenPages : Network := fun _ =>
  let bytes (text : String) : List UInt8 := text.toList.map fun c => c.toNat.toUInt8
  ⟨true, .ok ⟨some "text/html".toList, [bytes "<tit", bytes "le> A B </title>"],
    .failed .noAnswer⟩⟩

/-- The title of one page is known, and that of every other page is said to be a
blank. -/
def blankAnswers : Rules :=
  Rules.empty.addResolver fun url =>
    if url = "http://x.test/b".toList then some "Bee".toList else some " ".toList

/-- A page is opened and, before its answer comes, found by a scan again. Its title is
found in the cache and, after that has been cleared, on the page. -/
def scannedAgain : List Session.Action := [
  .scan (citing "http://x.test/a") ⟨1700000600, 0⟩,
  .resolver .work,
  .scan (citing "http://x.test/a") ⟨1700000700, 0⟩,
  .resolver (.release "http://x.test/a"),
  .resolver .settle,
  .review ⟨1700000800, 0⟩,
  .resolver .clear,
  .resolver (.release "http://x.test/a"),
  .resolver .settle,
  .scan (citing "http://x.test/b") ⟨1700000900, 0⟩,
  .resolver .settle]

theorem Session.run_names_scannedAgain :
    let session := ((Course.start .default blankAnswers brokenPages .unused .default).run
      scannedAgain).session
    let title := titleOf blankAnswers brokenPages .empty 2000
    session.board.links.map Cluster.title = [some "A B", some "A B", some "Bee"] ∧
    (∀ url, Rules.isBlankText (title url).toList = false) ∧
    (∀ url text, (url, text) ∈ session.resolver.desk.cache.entries → text = title url) ∧
    (∀ cluster ∈ session.board.links, ∀ text, cluster.title = some text →
      text = title cluster.url) ∧
    (∀ view, .groupUpdated view ∈ session.delivered →
      view.title = title view.url ∧ view.isResolved = true) ∧
    ∀ group ∈ session.board.groups, group.resolution = .resolved →
      ∃ cluster, session.board.links[group.link]? = some cluster ∧ cluster.title.isSome :=
  ⟨by decide +kernel,
    run_names .default blankAnswers brokenPages .unused .default .empty scannedAgain
      (by simp [scannedAgain])⟩

end LinkDigest
