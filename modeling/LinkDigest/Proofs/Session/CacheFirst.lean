import LinkDigest.Proofs.Session.Resolution
import LinkDigest.Proofs.Title.CacheFirst

/-!
# The cache comes first in a session

Scans and reviews make, show and hide groups and ask for their titles. None of it opens a page
or changes what is in the cache, so a session looks into the cache as its resolver does.
-/

namespace LinkDigest

namespace Session

variable {session : Session}

theorem asks_store (session : Session) (clusters : List Cluster) :
    Resolver.Asks session.resolver (session.store clusters).resolver :=
  .of_queue (session.sameSearches_store clusters).keepsUrls rfl (fun _ => rfl) rfl

theorem asks_reviewed (hsound : session.board.Sound) (now : Instant) :
    Resolver.Asks session.resolver (session.reviewed now).resolver := by
  have hannounced : Resolver.Asks session.resolver (session.announced now).2 :=
    .of_queue (sameSearches_announced hsound now).keepsUrls rfl (fun _ => rfl) rfl
  exact hannounced.trans (Resolver.asks_resolveAll _ _)

theorem sound_reviewed (hsound : session.board.Sound) (now : Instant) :
    (session.reviewed now).board.Sound :=
  (Resolver.quiet_resolveAll ..).board.sound (sound_announced hsound now).1

end Session

namespace Course

/-- What is done with the session itself queues only searches for titles that are not in the
cache. -/
theorem asks_step {course : Course} (hsound : course.session.board.Sound)
    {action : Session.Action} (haction : ∀ step, action ≠ .resolver step) :
    (course.step action).session.board.Sound ∧
      Resolver.Asks course.session.resolver (course.step action).session.resolver := by
  refine step_induction (P := fun next => next.session.board.Sound ∧
    Resolver.Asks course.session.resolver next.session.resolver) ?_ ?_ ?_ ?_ ?_
  · exact ⟨hsound, .refl _⟩
  · intro _ _
    exact ⟨hsound, .refl _⟩
  · intro step hstep
    exact absurd hstep (haction step)
  · intro _ _ result _
    exact ⟨Session.sound_store hsound result.clusters,
      Session.asks_store course.session result.clusters⟩
  · rintro next now ⟨hnext, hasks⟩
    exact ⟨Session.sound_reviewed hnext now, hasks.trans (Session.asks_reviewed hnext now)⟩

theorem advances_step {course : Course} (hsound : course.session.board.Sound)
    (action : Session.Action) :
    (course.step action).session.board.Sound ∧
      Resolver.Advances course.session.resolver (course.step action).session.resolver := by
  by_cases haction : ∃ step, action = .resolver step
  · obtain ⟨step, rfl⟩ := haction
    exact ⟨(course.session.resolver.quiet_act step).board.sound hsound,
      course.session.resolver.advances_act step⟩
  · have hasks := asks_step hsound (not_exists.mp haction)
    exact ⟨hasks.1, hasks.2.advances⟩

theorem run_concat (course : Course) (actions : List Session.Action) (action : Session.Action) :
    course.run (actions ++ [action]) = (course.run actions).step action :=
  course.run_append actions [action]

end Course

/-- In every run of a resolver, and in every run of a session, titles are looked for in the cache
first, and a page whose title is there is opened only if the title was stored after the search
that opens it had been queued. -/
theorem Session.run_looksFirst (config : Config) (rules : Rules) (network : Network)
    (metrics : Metrics) (filter : Filter) (indexes : Text.Indexes) :
    Resolver.CacheFirst (Resolver.new config.resolver rules network metrics indexes).moveAll
        (.act .work) ∧
      Resolver.CacheFirst
        (fun actions => ((Course.start config rules network metrics filter indexes).run
          actions).session.resolver) (.resolver .work) := by
  constructor
  · refine Resolver.cacheFirst_of_advances rfl (fun moves move => ?_) fun moves => ?_
    · show Resolver.Advances _ (List.foldl _ _ (moves ++ [move]))
      rw [List.foldl_concat]
      exact Resolver.advances_move _ move
    · exact List.foldl_concat ..
  · have hsound := fun actions => Course.run_induction (P := fun course => course.session.board.Sound)
      (fun _ action h => (Course.advances_step h action).1) actions
      (Course.start config rules network metrics filter indexes) Board.Sound.empty
    refine Resolver.cacheFirst_of_advances rfl (fun actions action => ?_) fun actions => ?_
    · show Resolver.Advances _ ((Course.run _ (actions ++ [action])).session.resolver)
      rw [Course.run_concat]
      exact (Course.advances_step (hsound actions) action).2
    · show ((Course.run _ (actions ++ [_])).session.resolver) = _
      rw [Course.run_concat]
      rfl

/-- The answers come at once, and are pages with one title. -/
def titledPages : Network := fun _ =>
  ⟨false, .ok ⟨some "text/html".toList,
    ["<title>A</title>".toList.map fun c => c.toNat.toUInt8], .complete⟩⟩

/-- Two groups of one link ask for the title, which neither finds in the cache, and the search
for the first is done. -/
def askedTwice : List Resolver.Move := [
  .addLink (.new "http://x.test/a"),
  .addGroup 1 0,
  .addGroup 2 0,
  .setVisible 0 true,
  .setVisible 1 true,
  .resolve 0,
  .resolve 1,
  .act .work]

/-- The second search opens the page again, although its title is in the cache. -/
theorem Resolver.opened_askedTwice :
    let resolver := (Resolver.new .default .empty titledPages .unused).moveAll askedTwice
    resolver.desk.cache.find? "http://x.test/a" = some "A" ∧
      resolver.desk.opened = ["http://x.test/a"] ∧
      (resolver.move (.act .work)).desk.opened = ["http://x.test/a", "http://x.test/a"] := by
  decide +kernel

end LinkDigest
