import LinkDigest.Proofs.Scan.Aggregation
import LinkDigest.Proofs.Session.Announcement
import LinkDigest.Proofs.Session.Provenance
import LinkDigest.Proofs.Title.LastWord

/-!
# What the reader ends up with

When no job is left and nothing is on its way, the reader has last been told of every
group shown by the title it has. Whether that title has been found is told as well, but
for a group that got back the very title it was announced with: that is not told of. And
all this is so only if the pool took every search of the last review, since a search it
does not take makes a group unresolved that was resolved, and nobody is told.
-/

namespace LinkDigest

variable {finds : String → String → Prop}

namespace Session

/-! ## Scans and reviews -/

theorem numbered_postAll {board : Board} {found : List LinkId} (hsound : board.Sound)
    (h : board.Numbered found) {entries : List Entry}
    (hlinks : ∀ entry ∈ entries, entry.link < board.links.length)
    (hfound : ∀ entry ∈ entries, entry.link ∈ found) :
    (postAll board entries).2.Numbered found ∧
      ∀ id ∈ (postAll board entries).1, ∃ group,
        (postAll board entries).2.groups[id]? = some group ∧ group.link ∈ found := by
  refine (postAll_induction (P := fun entries ids next =>
    (∀ entry ∈ entries, entry.link ∈ found) → next.Numbered found ∧
      ∀ id ∈ ids, ∃ group, next.groups[id]? = some group ∧ group.link ∈ found)
    (fun _ => ⟨h, fun _ hid => absurd hid List.not_mem_nil⟩) ?_ hsound entries hlinks).1 hfound
  intro entries ids before entry id next hbefore hgiven hfound
  obtain ⟨hnumbered, hplaces⟩ := hbefore fun other hother =>
    hfound other (List.mem_append_left _ hother)
  have hentry : entry.link ∈ found := hfound entry (by simp)
  have hnext := (hnumbered.given hentry hgiven).of_eq (next.seats_setItems id entry.articles)
    rfl rfl rfl
  refine ⟨hnext, fun place hplace => ?_⟩
  have hkept : ∃ group, next.groups[place]? = some group ∧ group.link ∈ found := by
    rcases List.mem_append.mp hplace with hold | hlast
    · obtain ⟨group, hgroup, hlink⟩ := hplaces place hold
      obtain ⟨kept, hkept, -, hsame⟩ := hgiven.keeps.group place group hgroup
      exact ⟨kept, hkept, hsame ▸ hlink⟩
    · obtain ⟨group, hgroup, hlink⟩ := hgiven.group
      rw [List.mem_singleton.mp hlast]
      exact ⟨group, hgroup, hlink ▸ hentry⟩
  obtain ⟨group, hgroup, hlink⟩ := hkept
  rw [Board.groups_setItems, hgroup]
  split <;> exact ⟨_, rfl, hlink⟩

variable {session : Session}

theorem numbered_announced (hsound : session.board.Sound)
    (h : session.board.Numbered session.found) (now : Instant) :
    (session.announced now).2.desk.board.Numbered session.found ∧
      ∀ id ∈ (session.announced now).1, ∀ group,
        (session.announced now).2.desk.board.groups[id]? = some group →
          group.link ∈ session.found := by
  have hfound : ∀ entry ∈ (session.entries now).take session.config.maxDisplayed,
      entry.link ∈ session.found := fun entry hentry =>
    (session.links_entries now).subset (List.mem_map_of_mem (List.mem_of_mem_take hentry))
  obtain ⟨hnumbered, hplaces⟩ :=
    numbered_postAll hsound h (fun _ hentry => lt_of_mem_entries hentry) hfound
  have hsame := Board.sameHidden_replaceVisible (postAll session.board
    ((session.entries now).take session.config.maxDisplayed)).2 (session.announced now).1
  rw [announced_board]
  refine ⟨?_, ?_⟩
  · exact hnumbered.of_eq hsame.seats hsame.urls hsame.issued (Board.known_replaceVisible ..)
  · intro id hid group hgroup
    obtain ⟨posted, hposted, hlink⟩ := hplaces id hid
    obtain ⟨kept, hkept, -, heq⟩ := hsame.keeps.group id posted hposted
    rw [hgroup, Option.some.injEq] at hkept
    rw [hkept, heq]
    exact hlink

theorem upToDate_store (h : session.resolver.UpToDate finds session.found)
    {clusters : List Cluster} (huntitled : ∀ cluster ∈ clusters, cluster.title = none)
    (hnodup : (clusters.map Cluster.url).Nodup) :
    (session.store clusters).resolver.UpToDate finds (session.store clusters).found := by
  have hsame := session.board.sameHidden_retain (clusters.map Cluster.url)
  have hsound := h.truthful.sound
  refine ⟨truthful_store h.truthful huntitled, ?_, ?_⟩
  · exact (h.numbered.forget hsame).addLinks (Board.sound_retain hsound _) hnodup
  · refine h.word.of_log (Board.visible_retain ..) hsame.seats ?_ rfl
    intro group hgroup
    have hlt := hsound.link_lt _ (List.mem_map_of_mem hgroup)
    show ((session.board.retain _).links ++ clusters)[group.link]? = _
    rw [hsame.links]
    exact List.getElem?_append_left hlt

/-- What is told of a group in a review is the last word on it, as no other group of the
review has its number. -/
theorem upToDate_announced (h : session.resolver.UpToDate finds session.found) (now : Instant) :
    (session.announced now).2.UpToDate finds session.found := by
  obtain ⟨hnumbered, hfound⟩ := numbered_announced h.truthful.sound h.numbered now
  refine ⟨truthful_announced h.truthful now, hnumbered, ?_⟩
  intro id hid group cluster hgroup hcluster
  have hview := Board.view?_eq hgroup hcluster
  refine ⟨.groupAdded (group.view cluster), ?_, _, rfl, rfl, fun title htitle => ?_⟩
  · rw [log_announced]
    refine lastTold?_append_of_mem _ ?_ (by simp [Event.tells, Event.view?, Group.view]) ?_
    · refine List.mem_cons_of_mem _ (List.mem_flatMap.mpr ⟨id, hid, ?_⟩)
      unfold announcement
      rw [hview]
      exact List.mem_cons_self
    · intro event hevent htells
      rcases List.mem_cons.mp hevent with rfl | hgroups
      · cases htells
      · obtain ⟨other, hother, hevent⟩ := List.mem_flatMap.mp hgroups
        rcases mem_announcement hevent with ⟨view, hotherView, rfl⟩ | ⟨seq, item, rfl⟩
        · obtain ⟨owner, known, howner, -, rfl⟩ := Board.exists_of_view? hotherView
          have hseq : owner.seq = group.seq := by
            simpa [Event.tells, Event.view?, Group.view] using htells
          have heq := hnumbered.eq_of_seq howner hgroup hseq (hfound other hother owner howner)
            (hfound id hid group hgroup)
          rw [heq, hview, Option.some.injEq] at hotherView
          rw [hotherView]
        · cases htells
  · simp [Group.view, Cluster.displayName, htitle]

end Session

/-! ## Whatever is done -/

namespace Course

theorem upToDate_start (config : Config) (rules : Rules) (network : Network) (metrics : Metrics)
    (filter : Filter) (indexes : Text.Indexes) :
    (start config rules network metrics filter indexes).session.resolver.UpToDate
      (FindsTitle rules network indexes config.resolver.scanLimit) [] where
  truthful := truthful_start config rules network metrics filter indexes
  numbered := .empty
  word _ hid := absurd hid List.not_mem_nil

/-- As long as it is not stopped, a session tells of all titles it shows. -/
def Current (finds : String → String → Prop) (course : Course) : Prop :=
  course.session.isStopped = false →
    course.session.resolver.UpToDate finds course.session.found

theorem Current.step {course : Course} (h : course.Current finds) {action : Session.Action}
    (hput : ∀ url title, action ≠ .resolver (.put url title)) :
    (course.step action).Current finds := by
  refine step_induction (P := Current finds) h ?_ ?_ ?_ ?_
  · intro pipeline filter hrunning
    exact h hrunning
  · rintro step rfl hrunning
    have hbefore := (course.session.resolver.quiet_act step).running hrunning
    refine (h hbefore).act (fun url title heq => ?_) hrunning
    exact hput url title (by rw [heq])
  · intro corpus now result hscan hrunning
    exact Session.upToDate_store (h hrunning) (Scan.title_of_run? hscan)
      (Scan.nodup_urls_of_run? hscan)
  · intro course now h hrunning
    have hbefore := h (Session.running_of_reviewed hrunning)
    exact (Session.upToDate_announced hbefore now).resolveAll hrunning

theorem Current.run {course : Course} (h : course.Current finds) {actions : List Session.Action}
    (hput : ∀ url title, .resolver (.put url title) ∉ actions) :
    (course.run actions).Current finds :=
  run_induction_of_mem (P := Current finds)
    (fun _ _ hmem h => h.step fun url title heq => hput url title (heq ▸ hmem)) h

end Course

/-- What the last word on a group says of whether its title has been found. A group that
got back the title it was announced with is not told of again. -/
def SaysResolved (event : Event) (told shown : GroupView) : Prop :=
  told.isResolved = shown.isResolved ∨
    event = .groupAdded told ∧ told.isResolved = false ∧ shown.isResolved = true

theorem saysResolved_of_isResolved {event : Event} {told shown : GroupView}
    (htrue : event.IsTrue finds) (htold : event.view? = some told)
    (hshown : shown.isResolved = true) : SaysResolved event told shown := by
  cases event with
  | cleared => cases htold
  | itemAdded seq item => cases htold
  | groupUpdated view =>
    cases htold
    exact .inl (htrue.2.trans hshown.symm)
  | groupAdded view =>
    cases htold
    cases htold : told.isResolved with
    | true => exact .inl (htold.trans hshown.symm)
    | false => exact .inr ⟨rfl, htold, hshown⟩

/-- Of a link whose title cannot be found, the link itself is told. -/
theorem eq_of_not_finds {event : Event} {told : GroupView} (htrue : event.IsTrue finds)
    (htold : event.view? = some told) (hnone : ∀ title, ¬ finds told.url title) :
    told.title = told.url ∧ told.isResolved = false := by
  cases event with
  | cleared => cases htold
  | itemAdded seq item => cases htold
  | groupUpdated view =>
    cases htold
    exact absurd htrue.1 (hnone _)
  | groupAdded view =>
    cases htold
    exact htrue.resolve_left (hnone _)

/-- When no job is left after a review whose searches the pool all took, and all events
have been delivered, the reader has last been told of every group shown by its title. -/
theorem Session.run_lastWord (config : Config) (rules : Rules) (network : Network)
    (metrics : Metrics) (filter : Filter) (indexes : Text.Indexes) (actions : List Session.Action)
    (hput : ∀ url title, .resolver (.put url title) ∉ actions) :
    let course := (Course.start config rules network metrics filter indexes).run actions
    course.session.isStopped = false → course.isServed = true →
    course.session.resolver.pool.IsQuiet → course.session.resolver.desk.outbox.waiting = [] →
    ∀ shown ∈ course.session.visible, ∃ event told,
      lastTold? shown.seq course.session.delivered = some event ∧ event.view? = some told ∧
      told.title = shown.title ∧ SaysResolved event told shown := by
  intro course hrunning hserved hquiet hwaiting shown hshown
  have hattended := Course.run_induction
    (P := fun course => course.session.isStopped = false → course.Attended
      (SearchCancels rules network indexes config.resolver.scanLimit))
    (fun _ action h => Course.Attended.step h action) actions _
    (fun _ => .start config rules network metrics filter indexes) hrunning
  have hcurrent : course.Current (FindsTitle rules network indexes config.resolver.scanLimit) :=
    Course.Current.run
      (fun _ => Course.upToDate_start config rules network metrics filter indexes) hput
  have huptodate := hcurrent hrunning
  obtain ⟨id, hid, hview⟩ := List.mem_filterMap.mp hshown
  obtain ⟨group, cluster, hgroup, hcluster, rfl⟩ := Board.exists_of_view? hview
  obtain ⟨event, hlast, told, htold, hurl, hnamed⟩ :=
    huptodate.word id hid group cluster hgroup hcluster
  have htrue := huptodate.truthful.isTrue.events event (mem_of_lastTold? hlast)
  rw [Outbox.log, hwaiting, List.append_nil] at hlast
  refine ⟨event, told, hlast, htold, ?_⟩
  cases hresolution : group.resolution with
  | unresolved =>
    obtain ⟨owner, known, howner, hknown, -, hsearch⟩ := hattended.served hserved id hid
    cases hgroup.symm.trans howner
    cases hcluster.symm.trans hknown
    have hcancels := hsearch.resolve_left fun hne => hne hresolution
    rw [hattended.cancels_eq] at hcancels
    have hnone : cluster.title = none := Option.eq_none_iff_forall_ne_some.mpr fun title htitle =>
      (huptodate.truthful.isTrue.titles cluster (List.mem_of_getElem? hcluster) title htitle).2
        hcancels
    obtain ⟨hlink, hfound⟩ := eq_of_not_finds htrue htold fun title hfinds =>
      hfinds.2 (hurl ▸ hcancels)
    exact ⟨by simp [Group.view, Cluster.displayName, hnone, hlink, hurl],
      .inl (by simp [Group.view, hresolution, hfound])⟩
  | resolving =>
    -- A search under way has a job, and there is none.
    have hjob := hattended.tended.owned id group hgroup hresolution
    rw [Pool.jobs_eq_nil_of_isQuiet hquiet] at hjob
    exact absurd hjob List.not_mem_nil
  | resolved =>
    have hsome := huptodate.truthful.isTrue.titled id group cluster hgroup hresolution hcluster
    obtain ⟨title, htitle⟩ := Option.isSome_iff_exists.mp hsome
    refine ⟨?_, saysResolved_of_isResolved htrue htold (by simp [Group.view, hresolution])⟩
    rw [hnamed title htitle]
    simp [Group.view, Cluster.displayName, htitle]

/-- A page is found by two scans, and its title is looked for twice. While the group is
hidden, a search begun for the group before it brings the title back into the cache. -/
def foundBehind : List Session.Action := [
  .scan (citing "http://x.test/a") ⟨1700000600, 0⟩,
  .resolver .work,
  .resolver (.release "http://x.test/a"),
  .scan (citing "http://x.test/a") ⟨1700000700, 0⟩,
  .resolver .work,
  .resolver (.release "http://x.test/a"),
  .resolver .postpone,
  .resolver .work,
  .resolver .clear,
  .review ⟨1700000800, 0⟩,
  .setFilter { Filter.default with minRating := 5 } ⟨1700000900, 0⟩,
  .resolver .postpone,
  .resolver .work,
  .resolver .work,
  .setFilter .default ⟨1700001000, 0⟩,
  .resolver .settle]

theorem Session.run_lastWord_foundBehind :
    let course := (Course.start .default .empty brokenPages .unused .default).run foundBehind
    course.session.isStopped = false ∧ course.isServed = true ∧
    course.session.resolver.pool.IsQuiet ∧ course.session.resolver.desk.outbox.waiting = [] ∧
    course.session.visible.map GroupView.isResolved = [true] ∧
    (lastTold? 1 course.session.delivered).bind Event.view? = some
      ⟨1, "http://x.test/a", "A B", false, 2, 2, ⟨6, 2⟩⟩ ∧
    ∀ shown ∈ course.session.visible, ∃ event told,
      lastTold? shown.seq course.session.delivered = some event ∧ event.view? = some told ∧
      told.title = shown.title ∧ SaysResolved event told shown :=
  ⟨by decide +kernel, by decide +kernel, by decide +kernel, by decide +kernel, by decide +kernel,
    by decide +kernel,
    run_lastWord .default .empty brokenPages .unused .default .empty foundBehind
      (by simp [foundBehind]) (by decide +kernel) (by decide +kernel) (by decide +kernel)
      (by decide +kernel)⟩

/-- One worker, and room for one job more. -/
def oneByOne : Config :=
  { Config.default with resolver := { ResolverConfig.default with workers := 1, queueCapacity := 1 } }

/-- The title of a page is known and is purged from the cache when the only worker waits
and the queue is full. -/
def turnedDown : List Session.Action := [
  .scan (citing "http://x.test/b") ⟨1700000600, 0⟩,
  .resolver .settle,
  .scan (citing "http://x.test/a") ⟨1700000700, 0⟩,
  .resolver .work,
  .scan (citing "http://x.test/c") ⟨1700000800, 0⟩,
  .scan (citing "http://x.test/b") ⟨1700000900, 0⟩,
  .resolver .clear,
  .review ⟨1700001000, 0⟩,
  .resolver (.release "http://x.test/a"),
  .resolver .settle]

/-- When the pool does not take a search, a group that the reader was told to be resolved
is not so any more. -/
theorem Session.run_unresolves :
    let session := ((Course.start oneByOne blankAnswers brokenPages .unused .default).run
      turnedDown).session
    session.isStopped = false ∧ session.resolver.pool.IsQuiet ∧
    session.resolver.desk.outbox.waiting = [] ∧
    ∃ shown ∈ session.visible, shown.isResolved = false ∧
      lastTold? shown.seq session.delivered =
        some (.groupAdded { shown with isResolved := true }) := by
  decide +kernel

end LinkDigest
