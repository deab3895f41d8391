import LinkDigest.Proofs.Session.Review
import LinkDigest.Proofs.Title.Tending

/-!
# Every group shown gets its title

A session tends the searches for titles through scans and reviews: these make,
show and hide groups, but take no search away. So when no job is left after a
review whose searches the pool all took, the groups shown have their titles. The
only exception is a page that answers that reading it was cancelled: its group
is as it was before the search.
-/

namespace LinkDigest

/-! ## Scans and reviews -/

/-- Making, showing and hiding groups takes no search away. -/
theorem Resolver.Tended.of_sameSearches {before after : Resolver} (h : before.Tended)
    (hsame : Board.SameSearches before.desk.board after.desk.board)
    (hsound : after.desk.board.Sound) (hrules : after.desk.rules = before.desk.rules)
    (hpool : after.pool = before.pool) : after.Tended where
  sound := hsound
  owned := hpool ▸ h.owned.of_sameSearches hsame
  titled := h.titled.of_sameSearches h.sound hsame
  lt_of_mem id hid := by
    have hlt := h.lt_of_mem id (hpool ▸ hid)
    obtain ⟨next, hnext, -⟩ := hsame.group id _ (List.getElem?_eq_getElem hlt)
    exact (List.getElem?_eq_some_iff.mp hnext).1
  unknown id hid cluster hcluster := by
    have hwaits : id ∈ before.pool.started := hpool ▸ hid
    have hlt := h.lt_of_mem id (List.mem_append_right _ hwaits)
    have hgroup := List.getElem?_eq_getElem hlt
    obtain ⟨known, hknown, hold⟩ := h.sound.exists_cluster hgroup
    obtain ⟨next, hnext, hlink, -⟩ := hsame.group id _ hgroup
    have hkept := hsame.link _ known hknown
    unfold Board.cluster? at hcluster
    rw [hnext, Option.bind_some, hlink, hkept, Option.some.injEq] at hcluster
    rw [hrules, ← hcluster]
    exact h.unknown id hwaits known hold

namespace Session

theorem sameSearches_postAll {board : Board} (hsound : board.Sound) {entries : List Entry}
    (hlinks : ∀ entry ∈ entries, entry.link < board.links.length) :
    board.SameSearches (postAll board entries).2 := by
  refine (postAll_induction (P := fun _ _ next => board.SameSearches next) (.refl board) ?_ hsound
    entries hlinks).1
  intro entries ids before entry id next hbefore hgroup
  exact (hbefore.trans hgroup.sameSearches).trans (Board.sameSearches_setItems ..)

theorem sameSearches_announced {session : Session} (hsound : session.board.Sound)
    (now : Instant) : session.board.SameSearches (session.announced now).2.desk.board := by
  have hlinks : ∀ entry ∈ (session.entries now).take session.config.maxDisplayed,
      entry.link < session.board.links.length := fun _ hentry => lt_of_mem_entries hentry
  rw [announced_board]
  exact (sameSearches_postAll hsound hlinks).trans (Board.sameHidden_replaceVisible ..).sameSearches

theorem tended_announced {session : Session} (h : session.resolver.Tended) (now : Instant) :
    (session.announced now).2.Tended :=
  h.of_sameSearches (sameSearches_announced h.sound now) (sound_announced h.sound now).1 rfl rfl

/-- The groups of a review are in sight when they have been announced. -/
theorem isVisible_announced {session : Session} (hsound : session.board.Sound) (now : Instant) :
    ∀ id ∈ (session.announced now).1, (session.announced now).2.desk.board.isVisible id := by
  intro id hid
  have hlt := lt_of_mem_postAll hsound (fun _ hentry => lt_of_mem_entries hentry) id hid
  refine Board.isVisible_iff.mpr ?_
  rw [announced_board, Board.groups_replaceVisible, if_pos hid, List.getElem?_eq_getElem hlt]
  exact ⟨_, rfl, rfl⟩

theorem sameSearches_store (session : Session) (clusters : List Cluster) :
    session.board.SameSearches (session.store clusters).board :=
  (session.board.sameHidden_retain (clusters.map Cluster.url)).sameSearches.trans
    (Board.sameSearches_addLinks ..)

theorem tended_store {session : Session} (h : session.resolver.Tended) (clusters : List Cluster) :
    (session.store clusters).resolver.Tended :=
  h.of_sameSearches (session.sameSearches_store clusters) (sound_store h.sound clusters) rfl rfl

end Session

/-! ## Whatever is done -/

/-- What is so after any number of actions, as long as the session is not stopped. -/
structure Course.Attended (cancels : String → Prop) (course : Course) : Prop where
  cancels_eq : course.session.resolver.desk.Cancels = cancels
  tended : course.session.resolver.Tended
  served : course.isServed → ∀ id ∈ course.session.board.visible, course.session.resolver.Serves id

namespace Course.Attended

variable {cancels : String → Prop} {course : Course}

theorem start (config : Config) (rules : Rules) (network : Network) (metrics : Metrics)
    (filter : Filter) (indexes : Text.Indexes) :
    Attended (SearchCancels rules network indexes config.resolver.scanLimit)
      (.start config rules network metrics filter indexes) where
  cancels_eq := rfl
  tended :=
    { sound := Board.Sound.empty
      owned := .empty []
      titled := .empty
      lt_of_mem := fun _ hid => absurd hid List.not_mem_nil
      unknown := fun _ hid => absurd hid List.not_mem_nil }
  served _ _ hid := absurd hid List.not_mem_nil

theorem steady (h : course.Attended cancels) {resolver : Resolver}
    (hsteady : course.session.resolver.Steady resolver) (hrunning : resolver.isStopped = false) :
    Attended cancels
      { course with session := { course.session with resolver := resolver } } where
  cancels_eq := hsteady.quiet.cancels.trans h.cancels_eq
  tended := hsteady.tended hrunning h.tended
  served hserved id hid := by
    have hvisible : id ∈ course.session.board.visible := hsteady.quiet.board.visible ▸ hid
    exact hsteady.serves hrunning h.tended id (h.served hserved id hvisible)

theorem store (h : course.Attended cancels) (clusters : List Cluster) :
    Attended cancels
      { course with
        session := course.session.store clusters, scanned := clusters, isServed := false } where
  cancels_eq := h.cancels_eq
  tended := Session.tended_store h.tended clusters
  served hserved := nomatch hserved

/-- After a review whose searches the pool all took every group shown is seen to. -/
theorem review (h : course.Attended cancels) (now : Instant)
    (hrunning : (course.session.reviewed now).isStopped = false) :
    Attended cancels
      { course with
        session := course.session.reviewed now
        reviews := course.reviews ++ [course.session.selection now]
        isServed := course.session.isServed now } := by
  have htended := Session.tended_announced h.tended now
  have hquiet := (course.session.announced now).2.quiet_resolveAll (course.session.announced now).1
  refine ⟨hquiet.cancels.trans h.cancels_eq, htended.resolveAll _, ?_⟩
  intro hserved id hid
  have htaken : (course.session.announced now).2.turnedDown (course.session.announced now).1 = [] :=
    List.isEmpty_iff.mp hserved
  have hshown : id ∈ (course.session.announced now).1 := by
    rw [← Session.visible_announced, ← hquiet.board.visible]
    exact hid
  exact Resolver.serves_resolveAll htended hrunning htaken
    (Session.isVisible_announced h.tended.sound now) (fun _ => False)
    (fun _ hnone => hnone.elim) id (.inr hshown)

theorem step (h : course.session.isStopped = false → course.Attended cancels)
    (action : Session.Action) :
    (course.step action).session.isStopped = false → (course.step action).Attended cancels := by
  refine Course.step_induction
    (P := fun course => course.session.isStopped = false → course.Attended cancels) h ?_ ?_ ?_ ?_
  · intro pipeline filter hrunning
    have hcourse := h hrunning
    exact ⟨hcourse.cancels_eq, hcourse.tended, hcourse.served⟩
  · intro action _ hrunning
    have hsteady := course.session.resolver.steady_act action
    exact (h (hsteady.quiet.running hrunning)).steady hsteady hrunning
  · intro corpus now result _ hrunning
    exact (h hrunning).store result.clusters
  · intro course now h hrunning
    exact (h (Session.running_of_reviewed hrunning)).review now hrunning

end Course.Attended

/-! ## When no job is left -/

/-- When no job is left after a review whose searches the pool all took, every
group shown has been resolved and has a title, but for those whose pages cancel
the search; and for these no search is under way. -/
theorem Session.run_resolves (config : Config) (rules : Rules) (network : Network)
    (metrics : Metrics) (filter : Filter) (indexes : Text.Indexes) (actions : List Session.Action) :
    let course := (Course.start config rules network metrics filter indexes).run actions
    course.session.isStopped = false → course.isServed = true →
    course.session.resolver.pool.IsQuiet →
    ∀ id ∈ course.session.board.visible, ∃ group cluster,
      course.session.board.groups[id]? = some group ∧
      course.session.board.links[group.link]? = some cluster ∧
      (group.resolution = .resolved ∧ cluster.title.isSome ∨
        group.resolution = .unresolved ∧
          SearchCancels rules network indexes config.resolver.scanLimit cluster.url) := by
  intro course hrunning hserved hquiet id hid
  have hattended := Course.run_induction
    (P := fun course => course.session.isStopped = false → course.Attended
      (SearchCancels rules network indexes config.resolver.scanLimit))
    (fun _ action h => Course.Attended.step h action) actions _
    (fun _ => .start config rules network metrics filter indexes) hrunning
  obtain ⟨group, cluster, hgroup, hcluster, -, hsearch⟩ := hattended.served hserved id hid
  refine ⟨group, cluster, hgroup, hcluster, ?_⟩
  cases hresolution : group.resolution with
  | unresolved =>
    have hcancels := hsearch.resolve_left fun hne => hne hresolution
    rw [hattended.cancels_eq] at hcancels
    exact .inr ⟨rfl, hcancels⟩
  | resolving =>
    -- A search under way has a job, and there is none.
    have hjob := hattended.tended.owned id group hgroup hresolution
    rw [Pool.jobs_eq_nil_of_isQuiet hquiet] at hjob
    exact absurd hjob List.not_mem_nil
  | resolved => exact .inl ⟨rfl, hattended.tended.titled id group cluster hgroup hresolution hcluster⟩

/-- Two feeds with an article each that cites the same page. -/
def citedTwice : Corpus :=
  let feed (name : String) (n : Nat) : Feed := ⟨.issued [n], name, none, 3, [], true⟩
  let article (feed : Feed) (n : Nat) : Article :=
    ⟨.issued [n], "post", feed, none, ⟨1700000000, 0⟩, false, ["http://x.test/a"], none⟩
  ⟨[⟨feed "one" 0, [article (feed "one" 0) 2]⟩, ⟨feed "two" 1, [article (feed "two" 1) 3]⟩]⟩

/-- The group of a page that waits is hidden and shown again before the answer comes. -/
def shownAgain : List Session.Action := [
  .scan citedTwice ⟨1700000600, 0⟩,
  .resolver .work,
  .setFilter { Filter.default with minRating := 5 } ⟨1700000700, 0⟩,
  .setFilter .default ⟨1700000800, 0⟩,
  .resolver (.release "http://x.test/a"),
  .resolver .work]

/-- The answers come only when they are released, and are pages without a title. -/
def heldPages : Network := fun _ => ⟨true, .ok ⟨some "text/html".toList, [], .complete⟩⟩

theorem Session.run_resolves_shownAgain :
    let course := (Course.start .default .empty heldPages .unused .default).run shownAgain
    course.session.isStopped = false ∧ course.isServed = true ∧
    course.session.resolver.pool.IsQuiet ∧ course.session.board.visible = [0] ∧
    ∀ id ∈ course.session.board.visible, ∃ group cluster,
      course.session.board.groups[id]? = some group ∧
      course.session.board.links[group.link]? = some cluster ∧
      (group.resolution = .resolved ∧ cluster.title.isSome ∨
        group.resolution = .unresolved ∧ SearchCancels .empty heldPages .empty 2000 cluster.url) :=
  ⟨by decide +kernel, by decide +kernel, by decide +kernel, by decide +kernel,
    run_resolves .default .empty heldPages .unused .default .empty shownAgain (by decide +kernel)
      (by decide +kernel) (by decide +kernel)⟩

/-- A page that cancels the search leaves its group without a title. -/
theorem Session.run_leaves_unresolved :
    let course := (Course.start .default .empty (fun _ => ⟨false, .error .cancelled⟩) .unused
      .default).run [.scan citedTwice ⟨1700000600, 0⟩, .resolver .settle]
    course.session.isStopped = false ∧ course.isServed = true ∧
    course.session.resolver.pool.IsQuiet ∧
    ∃ view ∈ course.session.visible, view.isResolved = false := by
  decide +kernel

end LinkDigest
