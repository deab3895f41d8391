import LinkDigest.Proofs.Board.Views
import LinkDigest.Proofs.Title.Tending

/-!
# Only true titles

The cache, the board and what the reader is told agree on the titles of links: each
is the one that the search for it ends with. Titles from the cache were found before,
and a search that goes on after a page was opened is still for the same link.
-/

namespace LinkDigest

theorem Desk.Quiet.finds {before after : Desk} (h : Desk.Quiet before after) :
    after.Finds = before.Finds := by
  unfold Desk.Finds
  rw [h.rules, h.network, h.indexes, h.scanLimit]

/-- A link has one title. -/
theorem Desk.eq_of_finds {desk : Desk} {url title other : String} (htitle : desk.Finds url title)
    (hother : desk.Finds url other) : title = other := htitle.1.trans hother.1.symm

variable {finds : String → String → Prop}

/-! ## The cache -/

namespace TitleCache

variable {cache : TitleCache} {url title : String} {entry : String × String}

theorem mem_of_mem_put (h : entry ∈ (cache.put url title).entries) :
    entry = (url, title) ∨ entry ∈ cache.entries := by
  rcases List.mem_cons.mp (List.mem_of_mem_take h) with heq | hold
  · exact .inl heq
  · exact .inr (List.mem_filter.mp hold).1

theorem mem_of_mem_use (h : entry ∈ (cache.use url).entries) : entry ∈ cache.entries := by
  unfold use at h
  split at h
  · rename_i title hfind
    rcases List.mem_cons.mp h with rfl | hold
    · exact mem_of_find? hfind
    · exact (List.mem_filter.mp hold).1
  · exact h

end TitleCache

/-! ## What is true -/

/-- Whether an event tells the truth about a title: a title that is told is the one
found, and a link told in place of a title is not said to be one. -/
def Event.IsTrue (finds : String → String → Prop) : Event → Prop
  | .groupUpdated view => finds view.url view.title ∧ view.isResolved
  | .groupAdded view => finds view.url view.title ∨ view.title = view.url ∧ view.isResolved = false
  | .cleared | .itemAdded .. => True

/-- Every title in the cache, on the board or told to the reader is the one found, and
every search that ended well has left one. -/
structure Desk.IsTrue (finds : String → String → Prop) (desk : Desk) : Prop where
  cache : ∀ url title, (url, title) ∈ desk.cache.entries → finds url title
  titles : ∀ cluster ∈ desk.board.links, ∀ title, cluster.title = some title →
    finds cluster.url title
  titled : desk.board.Titled
  events : ∀ event ∈ desk.outbox.log, event.IsTrue finds

namespace Desk.IsTrue

variable {desk : Desk} {id : GroupId} {cluster : Cluster} {title : String}

/-- What has been done to metrics and addresses opened does not matter. -/
theorem of_eq {after : Desk} (h : desk.IsTrue finds) (hcache : after.cache = desk.cache)
    (hboard : after.board = desk.board) (houtbox : after.outbox = desk.outbox) :
    after.IsTrue finds := by
  obtain ⟨hcached, htitles, htitled, hevents⟩ := h
  rw [← hcache] at hcached
  rw [← hboard] at htitles htitled
  rw [← houtbox] at hevents
  exact ⟨hcached, htitles, htitled, hevents⟩

theorem use (h : desk.IsTrue finds) (url : String) (metrics : Metrics) :
    IsTrue finds { desk with cache := desk.cache.use url, metrics := metrics } :=
  ⟨fun url title hentry => h.cache url title (TitleCache.mem_of_mem_use hentry), h.titles,
    h.titled, h.events⟩

theorem put (h : desk.IsTrue finds) {url : String} (hfinds : finds url title) :
    IsTrue finds { desk with cache := desk.cache.put url title } where
  cache other name hentry := by
    rcases TitleCache.mem_of_mem_put hentry with heq | hold
    · cases heq
      exact hfinds
    · exact h.cache other name hold
  titles := h.titles
  titled := h.titled
  events := h.events

theorem giveUp (h : desk.IsTrue finds) (id : GroupId) : (desk.giveUp id).IsTrue finds :=
  ⟨h.cache, h.titles, h.titled.giveUp, h.events⟩

theorem named (h : desk.IsTrue finds) (hcluster : desk.board.cluster? id = some cluster)
    (hfinds : finds cluster.url title) :
    IsTrue finds { desk with board := (desk.board.setTitle id title).markResolved id } where
  cache := h.cache
  titles other hother name hname := by
    obtain ⟨group, hgroup, hlink⟩ := Option.bind_eq_some_iff.mp hcluster
    obtain ⟨place, hplace⟩ := List.mem_iff_getElem?.mp hother
    rw [Board.markResolved, Board.modifyGroup, Board.links_setTitle _ _ _ hgroup] at hplace
    split at hplace
    · rename_i heq
      rw [← heq, hlink, Option.map_some, Option.some.injEq] at hplace
      subst hplace
      cases hname
      exact hfinds
    · exact h.titles other (List.mem_of_getElem? hplace) name hname
  titled := h.titled.resolved title
  events := h.events

theorem announce (h : desk.IsTrue finds) {view : GroupView}
    (hview : desk.board.view? id = some view) (htrue : (Event.groupUpdated view).IsTrue finds) :
    (desk.announce id).IsTrue finds := by
  have hevents : ∀ event ∈ (desk.announce id).outbox.log, event.IsTrue finds := by
    rw [log_announce hview]
    intro event hevent
    rcases List.mem_append.mp hevent with hold | hnew
    · exact h.events event hold
    · split at hnew
      · exact List.mem_singleton.mp hnew ▸ htrue
      · cases hnew
  unfold Desk.announce at hevents ⊢
  rw [hview] at hevents ⊢
  exact ⟨h.cache, h.titles, h.titled, hevents⟩

/-- What is told of a group that has been given its title is true. -/
theorem announce_named (h : desk.IsTrue finds) (hcluster : desk.board.cluster? id = some cluster)
    (hfinds : finds cluster.url title) :
    (({ desk with
      board := (desk.board.setTitle id title).markResolved id } : Desk).announce id).IsTrue
        finds := by
  obtain ⟨group, hgroup, hlink⟩ := Option.bind_eq_some_iff.mp hcluster
  have hview := Board.view?_named hgroup hlink title
  exact (h.named hcluster hfinds).announce hview ⟨hfinds, rfl⟩

theorem performs (h : desk.IsTrue finds) {task : Task GroupId} {result : Desk × Progress}
    (hresult : Performs desk task result) (hfinds : desk.Finds = finds)
    (hunknown : desk.isStopped = false → task = .resume task.job →
      ∀ cluster, desk.board.cluster? task.job = some cluster →
        desk.rules.customTitle? cluster.url.toList = none) : result.1.IsTrue finds := by
  cases hresult with
  | waits => exact h.of_eq rfl rfl rfl
  | nothing => exact h
  | hidden => exact h.giveUp _
  | stopped => exact h.giveUp _
  | cancelled cluster opened =>
    have hopened : IsTrue finds { desk with opened := opened } := h.of_eq rfl rfl rfl
    exact hopened.giveUp _
  | resolved cluster opened metrics title outcome hcluster hrunning hsight hfound =>
    have htitle : finds cluster.url title :=
      hfinds ▸ hfound fun hresume => hunknown hrunning hresume cluster hcluster
    have hstored : IsTrue finds
        { desk with
          opened := opened
          metrics := metrics.recordTitle outcome.label
          cache := desk.cache.put cluster.url title } := (h.put htitle).of_eq rfl rfl rfl
    exact hstored.announce_named hcluster htitle

end Desk.IsTrue

namespace Resolver

/-- All titles are true, and so are those that will be found. -/
structure Truthful (finds : String → String → Prop) (resolver : Resolver) : Prop where
  finds_eq : resolver.desk.Finds = finds
  sound : resolver.desk.board.Sound
  tended : resolver.isStopped = false → resolver.Tended
  isTrue : resolver.desk.IsTrue finds

namespace Truthful

variable {resolver next : Resolver} {id : GroupId}

/-- What is done without notice keeps all titles true if it does so on the desk. -/
theorem quiet (h : resolver.Truthful finds) (hquiet : Desk.Quiet resolver.desk next.desk)
    (htended : next.isStopped = false → resolver.Tended → next.Tended)
    (htrue : next.desk.IsTrue finds) : next.Truthful finds where
  finds_eq := hquiet.finds.trans h.finds_eq
  sound := hquiet.board.sound h.sound
  tended hrunning := htended hrunning (h.tended (hquiet.running hrunning))
  isTrue := htrue

/-- No rule knows the title of a link whose page a job has waited for. -/
theorem unknown_job (h : resolver.Truthful finds) {task : Task GroupId} {rest : Pool GroupId}
    (hnext : resolver.pool.next? = some (task, rest)) (hrunning : resolver.isStopped = false)
    (hresume : task = .resume task.job) (cluster : Cluster)
    (hcluster : resolver.desk.board.cluster? task.job = some cluster) :
    resolver.desk.rules.customTitle? cluster.url.toList = none := by
  refine (h.tended hrunning).unknown_job hnext hcluster fun hstart => ?_
  rw [hresume] at hstart
  cases hstart

theorem workOnce (h : resolver.Truthful finds) : resolver.workOnce.Truthful finds := by
  have hsteady := resolver.steady_workOnce
  refine h.quiet hsteady.quiet hsteady.tended ?_
  cases hnext : resolver.pool.next? with
  | none =>
    unfold Resolver.workOnce
    rw [hnext]
    exact h.isTrue
  | some found =>
    obtain ⟨task, next⟩ := found
    rw [workOnce_eq hnext]
    exact h.isTrue.performs (Desk.performs task resolver.desk) h.finds_eq (h.unknown_job hnext)

theorem act (h : resolver.Truthful finds) {action : Action}
    (hput : ∀ url title, action ≠ .put url title) : (resolver.act action).Truthful finds := by
  have hsteady := resolver.steady_act action
  have htrue := h.isTrue
  refine h.quiet hsteady.quiet hsteady.tended ?_
  cases action with
  | release url => exact htrue
  | work => exact h.workOnce.isTrue
  | postpone => exact htrue
  | dispatch =>
    exact ⟨htrue.cache, htrue.titles, htrue.titled, fun event hevent =>
      htrue.events event (resolver.desk.outbox.log_dispatch_sublist.subset hevent)⟩
  | settle =>
    have hwork : resolver.work.desk.IsTrue finds :=
      (work_induction (P := Truthful finds) (fun _ => workOnce) resolver h).isTrue
    exact ⟨hwork.cache, hwork.titles, hwork.titled, fun event hevent =>
      hwork.events event (resolver.work.desk.outbox.log_deliver_sublist.subset hevent)⟩
  | lookup url => exact htrue.use url _
  | put url title => exact absurd rfl (hput url title)
  | clear => exact ⟨fun _ _ hentry => (List.not_mem_nil hentry).elim, htrue.titles, htrue.titled,
      htrue.events⟩
  | stop => exact ⟨htrue.cache, htrue.titles, htrue.titled, htrue.events⟩

theorem resolves (h : resolver.Truthful finds) (hresult : Resolves resolver id next) :
    next.Truthful finds := by
  have htrue := h.isTrue
  refine h.quiet hresult.quiet (fun _ htended => htended.resolves hresult) ?_
  cases hresult with
  | unknown => exact htrue
  | cached cluster title metrics hcluster hfind =>
    have htitle : finds cluster.url title :=
      htrue.cache cluster.url title (TitleCache.mem_of_find? hfind)
    have hused := htrue.use cluster.url metrics
    show (resolveFromCache _ id cluster title).IsTrue finds
    unfold resolveFromCache
    simp only
    split
    · exact hused.named hcluster htitle
    · exact hused.announce_named hcluster htitle
  | unwanted => exact htrue.of_eq rfl rfl rfl
  | busy => exact htrue.of_eq rfl rfl rfl
  | begun cluster metrics board pool hcluster hbegin =>
    refine ⟨htrue.cache, ?_, htrue.titled.begin? hbegin, htrue.events⟩
    rw [Board.eq_of_begin?_eq_some hbegin]
    exact htrue.titles
  | refused metrics board hbegin =>
    refine ⟨htrue.cache, ?_, (htrue.titled.begin? hbegin).giveUp, htrue.events⟩
    rw [Board.eq_of_begin?_eq_some hbegin]
    exact htrue.titles

theorem resolveAll (h : resolver.Truthful finds) (ids : List GroupId) :
    (resolver.resolveAll ids).Truthful finds := by
  unfold Resolver.resolveAll
  induction ids generalizing resolver with
  | nil => exact h
  | cons id ids ih => exact ih (h.resolves (resolver.resolves id))

end Truthful

end Resolver

end LinkDigest
