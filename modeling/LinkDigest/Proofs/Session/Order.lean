import LinkDigest.Proofs.Board.Flags
import LinkDigest.Proofs.Session.Announcement
import LinkDigest.Proofs.Session.Resolution
import LinkDigest.Proofs.Title.Reports

/-!
# What comes before an update

An update never comes before its group has been told of, with the very link and
counts that the update has. That may have been before the list last began anew,
though: a job looks whether its group is in sight when it starts and not when it goes
on, so it still reports on a group that has been hidden meanwhile.
-/

namespace LinkDigest

/-- Whether a job goes on for a group that is not shown and looks, but for its title, as
an update tells. -/
def Session.RunsUnseen (session : Session) (view : GroupView) : Prop :=
  ∃ id ∈ session.resolver.pool.started, id ∉ session.board.visible ∧
    ∃ seen, session.board.view? id = some seen ∧ seen.key = view.key

/-- Whether events suit an update, given what could be when it was sent: its group has
been told of, and that since the list last began anew, unless a job went on for it
while it was not shown. -/
structure Suits (could : List Event → GroupView → Prop) (told : List Event) (view : GroupView) :
    Prop where
  added : ∃ added, .groupAdded added ∈ told ∧ added.key = view.key
  listed : (∃ added ∈ groupsTold told, added.key = view.key) ∨ could told view

namespace Course

variable {could : List Event → GroupView → Prop} {course : Course}

/-- What is so after any number of actions: the groups in sight are those shown, all
groups have been told of as they are, and every update suits what was told before. -/
structure Heralds (could : List Event → GroupView → Prop) (course : Course) : Prop where
  told : course.Told
  shown : ∀ id, course.session.board.isVisible id → id ∈ course.session.board.visible
  added : ∀ id view, course.session.board.view? id = some view →
    ∃ added, .groupAdded added ∈ course.session.resolver.desk.outbox.record ∧
      added.key = view.key
  updates : EveryUpdate (Suits could) [] course.session.resolver.desk.outbox.log

namespace Heralds

/-- An update for a group that is shown suits what has been told. -/
theorem suits_of_mem (h : course.Heralds could) {id : GroupId} {view other : GroupView}
    (hid : id ∈ course.session.board.visible) (hview : course.session.board.view? id = some view)
    (hother : other.key = view.key) :
    Suits could course.session.resolver.desk.outbox.record other where
  added := by
    obtain ⟨added, hadded, hkey⟩ := h.added id view hview
    exact ⟨added, hadded, hkey.trans hother.symm⟩
  listed := by
    have hmem : view.key ∈ course.session.visible.map GroupView.key :=
      List.mem_map_of_mem (List.mem_filterMap.mpr ⟨id, hid, hview⟩)
    rw [← h.told.visible] at hmem
    obtain ⟨added, hadded, hkey⟩ := List.mem_map.mp hmem
    exact .inl ⟨added, hadded, hkey.trans hother.symm⟩

theorem start (config : Config) (rules : Rules) (network : Network) (metrics : Metrics)
    (filter : Filter) (indexes : Text.Indexes) :
    Heralds could (.start config rules network metrics filter indexes) where
  told := .start config rules network metrics filter indexes
  shown id hid := by
    obtain ⟨group, hgroup, -⟩ := Board.isVisible_iff.mp hid
    cases hgroup
  added id view hview := by
    obtain ⟨group, cluster, hgroup, -⟩ := Board.exists_of_view? hview
    cases hgroup
  updates := trivial

/-- After work on titles all is as before if the updates suit. -/
theorem quiet (h : course.Heralds could) {resolver : Resolver}
    (hquiet : Desk.Quiet course.session.resolver.desk resolver.desk)
    (hupdates : EveryUpdate (Suits could) [] resolver.desk.outbox.log) (isServed : Bool) :
    Heralds could { course with
      session := { course.session with resolver := resolver }, isServed := isServed } where
  told := h.told.quiet hquiet isServed
  shown id hid := by
    have hvisible := hquiet.board.visible
    have hshown := h.shown id (hquiet.board.symm.isVisible hid)
    exact hvisible ▸ hshown
  added id view hview := by
    obtain ⟨old, hold, hkey⟩ := Desk.Reports.key_of_view? hquiet.board hview
    obtain ⟨added, hadded, haddedKey⟩ := h.added id old hold
    exact ⟨added, hquiet.record ▸ hadded, haddedKey.trans hkey⟩
  updates := hupdates

/-- A job that goes on is for a group that is shown or for one that could be told of. -/
theorem act (h : course.Heralds could) (action : Resolver.Action)
    (hcould : ∀ view, course.session.RunsUnseen view →
      could course.session.resolver.desk.outbox.record view) :
    Heralds could { course with
      session := { course.session with resolver := course.session.resolver.act action } } := by
  refine h.quiet (course.session.resolver.quiet_act action) ?_ course.isServed
  have hreports : course.session.resolver.Reports (Suits could)
      fun id => id ∈ course.session.board.visible ∨ id ∈ course.session.resolver.pool.started := by
    refine ⟨⟨h.updates, ?_⟩, fun id hid => .inl (h.shown id hid), fun id hid => .inr hid⟩
    intro id view hid hview other hother
    by_cases hshown : id ∈ course.session.board.visible
    · exact h.suits_of_mem hshown hview hother
    · obtain ⟨added, hadded, hkey⟩ := h.added id view hview
      have hunseen : course.session.RunsUnseen other :=
        ⟨id, hid.resolve_left hshown, hshown, view, hview, hother.symm⟩
      exact ⟨⟨added, hadded, hkey.trans hother.symm⟩, .inr (hcould other hunseen)⟩
  exact (hreports.act action).desk.updates

theorem store (h : course.Heralds could) (clusters : List Cluster) :
    Heralds could { course with
      session := course.session.store clusters, scanned := clusters, isServed := false } where
  told := h.told.store clusters
  shown id hid := by
    have hbefore := (course.session.board.isVisible_retain (clusters.map Cluster.url) id).mp hid
    show id ∈ (course.session.board.retain (clusters.map Cluster.url)).visible
    simpa using h.shown id hbefore.1
  added id view hview := by
    have hretained := course.session.board.sameHidden_retain (clusters.map Cluster.url)
    have hsound := Board.sound_retain h.told.sound (clusters.map Cluster.url)
    obtain ⟨group, -, hgroup, -⟩ := Board.exists_of_view? hview
    have hlt := (List.getElem?_eq_some_iff.mp hgroup).1
    have hlength : (course.session.board.retain (clusters.map Cluster.url)).groups.length =
        course.session.board.groups.length := by
      simpa using congrArg List.length hretained.groups
    obtain ⟨kept, hkept, hkey⟩ :=
      (Board.keeps_addLinks _ clusters).key_of_view? hsound hlt hview
    obtain ⟨old, hold, holdKey⟩ :=
      hretained.keeps.key_of_view? h.told.sound (hlength ▸ hlt) hkept
    obtain ⟨added, hadded, haddedKey⟩ := h.added id old hold
    exact ⟨added, hadded, (haddedKey.trans holdKey).trans hkey⟩
  updates := h.updates

/-- A review tells of its groups and leaves the others as they were. -/
theorem announced (h : course.Heralds could) (now : Instant) :
    Heralds could { course with
      session := { course.session with resolver := (course.session.announced now).2 }
      reviews := course.reviews ++ [course.session.selection now] } := by
  have hsound := h.told.sound
  have hrecord := course.session.record_announced now
  refine ⟨h.told.announced now, ?_, ?_, ?_⟩
  · intro id hid
    show id ∈ (course.session.announced now).1
    obtain ⟨group, hgroup, hvisible⟩ := Board.isVisible_iff.mp hid
    refine (Session.of_groups_announced hsound now hgroup).resolve_right ?_
    rintro ⟨old, hold, ⟨rfl, hunlisted⟩ | rfl⟩
    · exact hunlisted (h.shown id (Board.isVisible_iff.mpr ⟨group, hold, hvisible⟩))
    · cases hvisible
  · intro id view hview
    have hnew : id ∈ (course.session.announced now).1 →
        .groupAdded view ∈ (course.session.announced now).2.desk.outbox.record := fun hid => by
      rw [hrecord]
      refine List.mem_append_right _ (List.mem_cons_of_mem _ (List.mem_flatMap.mpr ⟨id, hid, ?_⟩))
      unfold Session.announcement
      rw [show (course.session.announced now).2.desk.board.view? id = some view from hview]
      exact List.mem_cons_self
    by_cases hid : id ∈ (course.session.announced now).1
    · exact ⟨view, hnew hid, rfl⟩
    · obtain ⟨group, cluster, hgroup, hcluster, rfl⟩ := Board.exists_of_view? hview
      obtain ⟨old, hold, hsame⟩ :=
        (Session.of_groups_announced hsound now hgroup).resolve_left hid
      have hkept : group.link = old.link ∧ (group.view cluster).key = (old.view cluster).key := by
        rcases hsame with ⟨rfl, -⟩ | rfl <;> exact ⟨rfl, rfl⟩
      have hlink : course.session.board.links[old.link]? = some cluster := by
        rw [← hkept.1, ← (Session.sound_announced hsound now).2]
        exact hcluster
      obtain ⟨added, hadded, hkey⟩ := h.added id _ (Board.view?_eq hold hlink)
      refine ⟨added, ?_, hkey.trans hkept.2.symm⟩
      exact hrecord ▸ List.mem_append_left _ hadded
  · show EveryUpdate _ [] (course.session.announced now).2.desk.outbox.log
    rw [Session.log_announced]
    exact EveryUpdate.append_iff.mpr
      ⟨h.updates, .of_not_isUpdate (Session.isUpdate_announced _ _)⟩

/-- In a review titles are asked for only after all of its groups have been told of. -/
theorem review (h : course.Heralds could) (now : Instant) :
    Heralds could { course with
      session := course.session.reviewed now
      reviews := course.reviews ++ [course.session.selection now]
      isServed := course.session.isServed now } := by
  have hannounced := h.announced now
  have hreports : (course.session.announced now).2.desk.Reports (Suits could)
      (· ∈ (course.session.announced now).1) :=
    ⟨hannounced.updates, fun id view hid hview other hother =>
      hannounced.suits_of_mem hid hview hother⟩
  exact hannounced.quiet (Resolver.quiet_resolveAll ..)
    (Resolver.reports_resolveAll hreports fun _ hid => hid).updates _

theorem mono {more : List Event → GroupView → Prop} (h : course.Heralds could)
    (hmore : ∀ told view, could told view → more told view) : course.Heralds more where
  told := h.told
  shown := h.shown
  added := h.added
  updates := h.updates.mono fun _ _ hsuits => ⟨hsuits.added, hsuits.listed.imp_right (hmore _ _)⟩

theorem step (h : course.Heralds could) (action : Session.Action)
    (hcould : ∀ view, course.session.RunsUnseen view →
      could course.session.resolver.desk.outbox.record view) :
    (course.step action).Heralds could := by
  refine Course.step_induction h ?_ ?_ ?_ ?_
  · intro pipeline filter
    have htold := h.told
    exact ⟨⟨htold.sound, htold.nodup, htold.clusters, htold.record, htold.visible⟩, h.shown,
      h.added, h.updates⟩
  · intro step _
    exact h.act step hcould
  · intro corpus now result _
    exact h.store result.clusters
  · intro course now h
    exact h.review now

end Heralds

/-- What could be when an update was sent: some of the actions had been done, the reader
had been told of the groups then shown, and a job went on for another one. -/
def CouldRunUnseen (run : List Session.Action → Course) (actions : List Session.Action)
    (told : List Event) (view : GroupView) : Prop :=
  ∃ earlier, earlier <+: actions ∧ (run earlier).session.RunsUnseen view ∧
    (groupsTold told).map GroupView.key = (run earlier).session.visible.map GroupView.key

theorem heralds_run (config : Config) (rules : Rules) (network : Network) (metrics : Metrics)
    (filter : Filter) (indexes : Text.Indexes) (actions : List Session.Action) :
    let run := (start config rules network metrics filter indexes).run
    (run actions).Heralds (CouldRunUnseen run actions) := by
  intro run
  induction actions using List.reverseRecOn with
  | nil => exact .start config rules network metrics filter indexes
  | append_singleton actions action ih =>
    have hmore : (run actions).Heralds (CouldRunUnseen run (actions ++ [action])) :=
      ih.mono fun _ _ ⟨earlier, hearlier, hrest⟩ =>
        ⟨earlier, hearlier.trans (List.prefix_append ..), hrest⟩
    have hstep : run (actions ++ [action]) = (run actions).step action := run_append ..
    rw [hstep]
    -- What runs unseen now does so after the actions done so far.
    exact hmore.step action fun view hunseen =>
      ⟨actions, List.prefix_append .., hunseen, ih.told.visible⟩

end Course

/-- Every update delivered comes after its group has been told of with the link and the
counts of the update. It has been told of since the list last began anew, unless a job
went on for it at a time when it was not among the groups shown and told of. -/
theorem Session.run_heralds (config : Config) (rules : Rules) (network : Network)
    (metrics : Metrics) (filter : Filter) (indexes : Text.Indexes) (actions : List Session.Action) :
    let run := (Course.start config rules network metrics filter indexes).run
    ∀ before view after,
      (run actions).session.delivered = before ++ .groupUpdated view :: after →
      (∃ added, .groupAdded added ∈ before ∧ added.key = view.key) ∧
      ((∃ added ∈ groupsTold before, added.key = view.key) ∨
        ∃ earlier, earlier <+: actions ∧ (run earlier).session.RunsUnseen view ∧
          (groupsTold before).map GroupView.key =
            (run earlier).session.visible.map GroupView.key) := by
  intro run before view after hdelivered
  have hheralds := Course.heralds_run config rules network metrics filter indexes actions
  have hupdates : EveryUpdate _ [] (run actions).session.delivered :=
    (EveryUpdate.append_iff.mp hheralds.updates).1
  rw [hdelivered] at hupdates
  obtain ⟨⟨added, hadded, hkey⟩, hlisted⟩ := hupdates.of_split
  rw [List.nil_append] at hadded
  refine ⟨⟨added, (List.mem_filter.mp hadded).1, hkey⟩, ?_⟩
  rw [List.nil_append, groupsTold_lasting] at hlisted
  refine hlisted.imp_right fun ⟨earlier, hearlier, hunseen, htold⟩ => ?_
  rw [groupsTold_lasting] at htold
  exact ⟨earlier, hearlier, hunseen, htold⟩

/-- The group of a page that waits is hidden before the answer comes. -/
def hiddenMeanwhile : List Session.Action := [
  .scan citedTwice ⟨1700000600, 0⟩,
  .resolver .work,
  .setFilter { Filter.default with minRating := 5 } ⟨1700000700, 0⟩,
  .resolver (.release "http://x.test/a"),
  .resolver .settle]

/-- What the reader is told of that. -/
def toldMeanwhile : List Event :=
  ((Course.start .default .empty heldPages .unused .default).run hiddenMeanwhile).session.delivered

/-- The update that comes when the group is not shown any more. -/
def lateUpdate : GroupView :=
  ⟨1, "http://x.test/a", "[Unresolved] http://x.test/a", true, 2, 2, ⟨6, 2⟩⟩

theorem toldMeanwhile_eq :
    toldMeanwhile = toldMeanwhile.dropLast ++ .groupUpdated lateUpdate :: [] := by
  decide +kernel

theorem Session.run_heralds_hiddenMeanwhile :
    let run := (Course.start .default .empty heldPages .unused .default).run
    let before := toldMeanwhile.dropLast
    (run hiddenMeanwhile).session.delivered = before ++ .groupUpdated lateUpdate :: [] ∧
    (∃ added, .groupAdded added ∈ before ∧ added.key = lateUpdate.key) ∧
    ((∃ added ∈ groupsTold before, added.key = lateUpdate.key) ∨
      ∃ earlier, earlier <+: hiddenMeanwhile ∧ (run earlier).session.RunsUnseen lateUpdate ∧
        (groupsTold before).map GroupView.key =
          (run earlier).session.visible.map GroupView.key) :=
  ⟨toldMeanwhile_eq, run_heralds .default .empty heldPages .unused .default .empty
    hiddenMeanwhile _ _ _ toldMeanwhile_eq⟩

/-- An update comes although no group has been told of since the list began anew. -/
theorem Session.run_updates_unlisted :
    toldMeanwhile = toldMeanwhile.dropLast ++ [.groupUpdated lateUpdate] ∧
      groupsTold toldMeanwhile.dropLast = [] := by
  decide +kernel

end LinkDigest
