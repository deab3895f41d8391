import LinkDigest.Proofs.Session.Run
import LinkDigest.Proofs.Title.Silence

/-!
# A session that has been stopped

Stopping is for good. Whatever is asked of the session afterwards, at whatever point its
jobs and its events were, it shows what it showed, every scan, filter and review is turned
down, and the reader is told no more than what was on its way, without the updates.
-/

namespace LinkDigest

/-- What becomes of a session that is stopped when nothing is stored in its cache but
these titles. -/
structure Session.Silenced (stored : String → String → Prop) (before after : Session) : Prop where
  /-- No page is opened, no title is set or stored, no group is resolved, and of the events
  on their way only those are delivered that are no updates, in turn. -/
  desk : Desk.Silent stored before.resolver.desk after.resolver.desk
  filter : after.filter = before.filter
  found : after.found = before.found

namespace Session.Silenced

variable {stored : String → String → Prop} {before session after : Session}

theorem trans (h : Silenced stored before session) (h' : Silenced stored session after) :
    Silenced stored before after :=
  ⟨h.desk.trans h'.desk, h'.filter.trans h.filter, h'.found.trans h.found⟩

theorem stop (session : Session) : Silenced stored session session.stop :=
  ⟨session.resolver.silent_stop, rfl, rfl⟩

theorem resolver {next : Resolver} (h : Desk.Silent stored session.resolver.desk next.desk) :
    Silenced stored session { session with resolver := next } :=
  ⟨h, rfl, rfl⟩

/-- A stopped session turns down every scan, every filter and every review. -/
theorem stopped (h : session.isStopped) (corpus : Corpus) (filter : Filter) (now : Instant) :
    session.scan corpus now = (.error .stopped, session) ∧
      session.setFilter filter now = (.error .stopped, session) ∧
      session.review now = (.error .stopped, session) :=
  ⟨if_pos h, if_pos h, if_pos h⟩

/-- Whatever is done with a session that has been stopped. -/
theorem act (h : session.isStopped) (action : Action)
    (hstored : ∀ url title, action = .resolver (.put url title) → stored url title) :
    Silenced stored session (session.act action) := by
  have hsame : Silenced stored session session := ⟨.refl h, rfl, rfl⟩
  cases action with
  | scan corpus now =>
    show Silenced stored session (session.scan corpus now).2
    rw [(stopped h corpus session.filter now).1]
    exact hsame
  | setFilter filter now =>
    show Silenced stored session (session.setFilter filter now).2
    rw [(stopped h .empty filter now).2.1]
    exact hsame
  | review now =>
    show Silenced stored session (session.review now).2
    rw [(stopped h .empty session.filter now).2.2]
    exact hsame
  | addExclusion exclusion => exact ⟨.refl h, rfl, rfl⟩
  | clearExclusions => exact ⟨.refl h, rfl, rfl⟩
  | resolver step =>
    exact .resolver
      (Resolver.silent_act h step fun url title hput => hstored url title (by rw [hput]))

theorem visible (h : Silenced stored before after) : after.visible = before.visible :=
  h.desk.board.visibleViews

theorem clusters (h : Silenced stored before after) : after.clusters = before.clusters := by
  unfold Session.clusters Board.clusters board
  rw [h.found, h.desk.board.links]

/-- Of the events on their way none that is no update is lost, doubled or overtaken. -/
theorem delivered (h : Silenced stored before after) :
    (∃ told, after.delivered = before.delivered ++ told ∧ (∀ event ∈ told, !event.isUpdate) ∧
        lasting before.resolver.desk.outbox.waiting =
          told ++ lasting after.resolver.desk.outbox.waiting) ∧
      after.settle.delivered = before.delivered ++ lasting before.resolver.desk.outbox.waiting ∧
      after.shutdown.delivered =
        before.delivered ++ lasting before.resolver.desk.outbox.waiting := by
  obtain ⟨told, hdelivered, hwaiting⟩ := h.desk.outbox
  -- When nothing is on its way any more, all of it has been delivered.
  have hall : ∀ {outbox : Outbox}, before.resolver.desk.outbox.Drains outbox →
      outbox.waiting = [] → outbox.delivered =
        before.delivered ++ lasting before.resolver.desk.outbox.waiting := by
    rintro outbox ⟨all, hall, heq⟩ hnone
    rw [hall, heq, hnone]
    exact (congrArg _ (List.append_nil all)).symm
  refine ⟨⟨told, hdelivered, ?_, hwaiting⟩, ?_, ?_⟩
  · intro event hevent
    have hlasting : event ∈ lasting before.resolver.desk.outbox.waiting := by
      rw [hwaiting]
      exact List.mem_append_left _ hevent
    exact (List.mem_filter.mp hlasting).2
  · have hwork : Desk.Silent stored after.resolver.desk after.resolver.work.desk :=
      Resolver.silent_work h.desk.isStopped
    exact hall (h.desk.trans (hwork.trans (Resolver.silent_deliver hwork.isStopped))).outbox rfl
  · have hstop : Desk.Silent stored after.resolver.desk after.resolver.stop.desk :=
      after.resolver.silent_stop
    exact hall (h.desk.trans (hstop.trans (Resolver.silent_deliver hstop.isStopped))).outbox rfl

end Session.Silenced

/-- Once a session has been stopped, at any point of any run, whatever is done with it:
the reader is told no update, and of the other events each that was on its way exactly once
and in turn, all of them by a settle or a shutdown; no page is opened; no title is set or
stored but those put into the cache by others, and no group is resolved; what is shown stays
as it is; and every scan, filter and review is turned down and changes nothing. -/
theorem Session.run_silenced (config : Config) (rules : Rules) (network : Network)
    (metrics : Metrics) (filter : Filter) (indexes : Text.Indexes)
    (earlier later : List Session.Action) :
    let course := Course.start config rules network metrics filter indexes
    let before := (course.run earlier).session
    let after := (course.run (earlier ++ .resolver .stop :: later)).session
    ((∃ told, after.delivered = before.delivered ++ told ∧ (∀ event ∈ told, !event.isUpdate) ∧
        lasting before.resolver.desk.outbox.waiting =
          told ++ lasting after.resolver.desk.outbox.waiting) ∧
      after.settle.delivered = before.delivered ++ lasting before.resolver.desk.outbox.waiting ∧
      after.shutdown.delivered =
        before.delivered ++ lasting before.resolver.desk.outbox.waiting) ∧
    after.resolver.desk.opened = before.resolver.desk.opened ∧
    (∀ url title, after.resolver.desk.cache.find? url = some title →
      before.resolver.desk.cache.find? url = some title ∨
        .resolver (.put url title) ∈ later) ∧
    after.board.links = before.board.links ∧
    (∀ id, after.board.resolution? id = some .resolved ↔
      before.board.resolution? id = some .resolved) ∧
    after.filter = before.filter ∧ after.clusters = before.clusters ∧
    after.visible = before.visible ∧
    ∀ corpus filter now,
      after.scan corpus now = (.error .stopped, after) ∧
        after.setFilter filter now = (.error .stopped, after) ∧
        after.review now = (.error .stopped, after) := by
  intro course before after
  have hsilenced : Silenced (fun url title => .resolver (.put url title) ∈ later) before after := by
    show Silenced _ before (course.run (earlier ++ .resolver .stop :: later)).session
    rw [Course.run_append]
    show Silenced _ before (((course.run earlier).step (.resolver .stop)).run later).session
    refine Course.run_induction_of_mem (P := fun next => Silenced _ before next.session) ?_
      (.stop before)
    intro next action hmem hnext
    exact hnext.trans (.act hnext.desk.isStopped action fun _ _ hput => hput ▸ hmem)
  exact ⟨hsilenced.delivered, hsilenced.desk.opened, hsilenced.desk.cache,
    hsilenced.desk.board.links, hsilenced.desk.board.resolution?, hsilenced.filter,
    hsilenced.clusters, hsilenced.visible, Silenced.stopped hsilenced.desk.isStopped⟩

end LinkDigest
