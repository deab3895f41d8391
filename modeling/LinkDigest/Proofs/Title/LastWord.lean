import LinkDigest.Proofs.Board.Numbers
import LinkDigest.Proofs.Title.Truth

/-!
# The last word on a group

The reader knows of a group what was told last of its number, be it of that very group
or of another one of the same link. For every group shown that has a title, this is the
title told: a new one is told at once, and the old groups of a link can only find the
same one.
-/

namespace LinkDigest

/-! ## What was told last -/

/-- The group that an event tells of, as it was when it was told. -/
def Event.view? : Event → Option GroupView
  | .groupAdded view | .groupUpdated view => some view
  | .cleared | .itemAdded .. => none

/-- Whether an event tells of a group of this number. -/
def Event.tells (seq : Nat) (event : Event) : Bool := event.view?.any fun view => view.seq = seq

/-- What was told last of a group of this number. -/
def lastTold? (seq : Nat) (events : List Event) : Option Event :=
  events.reverse.find? (Event.tells seq)

section

variable {seq : Nat} {events : List Event} {event : Event}

theorem lastTold?_append_singleton (seq : Nat) (events : List Event) (event : Event) :
    lastTold? seq (events ++ [event]) =
      if event.tells seq then some event else lastTold? seq events := by
  unfold lastTold?
  rw [List.reverse_append, List.reverse_singleton, List.singleton_append, List.find?_cons]
  cases event.tells seq <;> rfl

theorem mem_of_lastTold? (h : lastTold? seq events = some event) : event ∈ events :=
  List.mem_reverse.mp (List.mem_of_find?_eq_some h)

/-- What is told once and not told otherwise is the last word, whatever was told before. -/
theorem lastTold?_append_of_mem (before : List Event) (hmem : event ∈ events)
    (htells : event.tells seq) (honly : ∀ other ∈ events, other.tells seq → other = event) :
    lastTold? seq (before ++ events) = some event := by
  have hlast : events.reverse.find? (Event.tells seq) = some event := by
    cases hfind : events.reverse.find? (Event.tells seq) with
    | none => exact absurd htells (List.find?_eq_none.mp hfind event (List.mem_reverse.mpr hmem))
    | some found =>
      have hfound := List.mem_reverse.mp (List.mem_of_find?_eq_some hfind)
      rw [honly found hfound (List.find?_some hfind)]
  unfold lastTold?
  rw [List.reverse_append, List.find?_append, hlast]
  rfl

end

/-- Whether an event tells of a group of this cluster, and by its title if it has one. -/
def Event.Names (event : Event) (cluster : Cluster) : Prop :=
  ∃ view, event.view? = some view ∧ view.url = cluster.url ∧
    ∀ title, cluster.title = some title → view.title = title

/-- The last word on every group shown is the title of its cluster, if that has one. -/
def Desk.KeepsWord (desk : Desk) : Prop :=
  ∀ id ∈ desk.board.visible, ∀ group cluster, desk.board.groups[id]? = some group →
    desk.board.links[group.link]? = some cluster →
    ∃ event, lastTold? group.seq desk.outbox.log = some event ∧ event.Names cluster

namespace Desk.KeepsWord

variable {found : List LinkId} {finds : String → String → Prop} {desk after : Desk} {id : GroupId}
  {cluster : Cluster} {title : String}

/-- When no title changes and nothing is told, all words are kept. -/
theorem of_log (h : desk.KeepsWord) (hvisible : after.board.visible = desk.board.visible)
    (hseats : after.board.seats = desk.board.seats)
    (hlinks : ∀ group ∈ desk.board.groups,
      after.board.links[group.link]? = desk.board.links[group.link]?)
    (hlog : after.outbox.log = desk.outbox.log) : after.KeepsWord := by
  intro id hid group cluster hgroup hcluster
  obtain ⟨old, hold, hseat⟩ := Board.exists_of_seats (hseats ▸ Board.seats_eq hgroup)
  obtain ⟨hseq, hlink⟩ := Prod.mk.inj hseat
  have hkept : desk.board.links[old.link]? = some cluster := by
    rw [← hlinks old (List.mem_of_getElem? hold), hlink]
    exact hcluster
  rw [hlog, ← hseq]
  exact h id (hvisible ▸ hid) old cluster hold hkept

theorem of_outline (h : desk.KeepsWord) (hboard : desk.board.SameOutline after.board)
    (hlinks : after.board.links = desk.board.links)
    (hlog : after.outbox.log = desk.outbox.log) : after.KeepsWord :=
  h.of_log hboard.visible hboard.seats (fun _ _ => by rw [hlinks]) hlog

/-- A title that a group has been given is the last word on all groups of its link. -/
theorem named (h : desk.KeepsWord) (hnumbered : desk.board.Numbered found)
    (htrue : desk.IsTrue finds) (hfindsEq : desk.Finds = finds) (hrunning : desk.isStopped = false)
    (hcluster : desk.board.cluster? id = some cluster) (hfinds : finds cluster.url title) :
    (({ desk with
      board := (desk.board.setTitle id title).markResolved id } : Desk).announce id).KeepsWord := by
  subst hfindsEq
  obtain ⟨group, hgroup, hlink⟩ := Option.bind_eq_some_iff.mp hcluster
  have hboard := (desk.board.sameOutline_setTitle id title).trans
    (Board.sameOutline_markResolved _ id)
  have hnamed := htrue.named hcluster hfinds
  have hseats := hboard.seats
  intro other hother old known hold hknown
  simp only [board_announce] at hother hold hknown
  rw [log_announce (Board.view?_named hgroup hlink title),
    if_pos (Outbox.passes_of_running hrunning _), lastTold?_append_singleton]
  obtain ⟨before, hbefore, hseat⟩ := Board.exists_of_seats (hseats ▸ Board.seats_eq hold)
  obtain ⟨hseq, hplace⟩ := Prod.mk.inj hseat
  by_cases htold : old.seq = group.seq
  · -- The group has the number of the one that is told of, and so its link and title.
    have hurl : known.url = cluster.url := by
      have hsame := hnumbered.url_eq _ (List.mem_of_getElem? (Board.seats_eq hbefore))
        _ (List.mem_of_getElem? (Board.seats_eq hgroup)) (hseq.trans htold)
      have hknownUrl : desk.board.urls[before.link]? = some known.url := by
        rw [← hboard.urls, hplace]
        exact Board.urls_eq hknown
      rw [hknownUrl, Board.urls_eq hlink, Option.some.injEq] at hsame
      exact hsame
    refine ⟨_, if_pos (by simp [Event.tells, Event.view?, Group.view, htold]), _, rfl,
      hurl.symm, fun name hname => ?_⟩
    have hknownTitle := hnamed.titles known (List.mem_of_getElem? hknown) name hname
    rw [hurl] at hknownTitle
    exact eq_of_finds hfinds hknownTitle
  · have hne : group.link ≠ before.link := fun hsame => by
      have hid := hnumbered.eq_of_link hgroup hbefore hsame
      rw [← hid, hgroup, Option.some.injEq] at hbefore
      exact htold (hbefore ▸ hseq).symm
    rw [if_neg (by simpa [Event.tells, Event.view?, Group.view] using fun h => htold h.symm), ← hseq]
    have hkept : desk.board.links[before.link]? = some known := by
      rw [← hplace, Board.markResolved, Board.modifyGroup, Board.links_setTitle _ _ _ hgroup,
        if_neg hne] at hknown
      exact hknown
    exact h other (hboard.visible ▸ hother) before known hbefore hkept

/-- What is done for one job keeps the last word if no rule knows a title that is waited
for. -/
theorem performs (h : desk.KeepsWord) (hnumbered : desk.board.Numbered found)
    (htrue : desk.IsTrue finds) (hfindsEq : desk.Finds = finds) {task : Task GroupId}
    {result : Desk × Progress} (hresult : Performs desk task result)
    (hunknown : desk.isStopped = false → task = .resume task.job →
      ∀ cluster, desk.board.cluster? task.job = some cluster →
        desk.rules.customTitle? cluster.url.toList = none) : result.1.KeepsWord := by
  have hgiven : (desk.giveUp task.job).KeepsWord :=
    h.of_outline (desk.board.sameOutline_giveUp task.job) rfl rfl
  cases hresult with
  | waits => exact h
  | nothing => exact h
  | hidden => exact hgiven
  | stopped => exact hgiven
  | cancelled => exact hgiven
  | resolved cluster opened metrics title outcome hcluster hrunning hsight hfound =>
    have htitle : finds cluster.url title :=
      hfindsEq ▸ hfound fun hresume => hunknown hrunning hresume cluster hcluster
    have hstored : IsTrue finds
        { desk with
          opened := opened
          metrics := metrics.recordTitle outcome.label
          cache := desk.cache.put cluster.url title } := (htrue.put htitle).of_eq rfl rfl rfl
    have hword : KeepsWord
        { desk with
          opened := opened
          metrics := metrics.recordTitle outcome.label
          cache := desk.cache.put cluster.url title } := h
    exact hword.named hnumbered hstored hfindsEq hrunning hcluster htitle

end Desk.KeepsWord

/-! ## Whatever is done with a resolver -/

namespace Resolver

/-- All titles are true, and the last word on every group shown is its title. -/
structure UpToDate (finds : String → String → Prop) (found : List LinkId) (resolver : Resolver) :
    Prop where
  truthful : resolver.Truthful finds
  numbered : resolver.desk.board.Numbered found
  word : resolver.desk.KeepsWord

namespace UpToDate

variable {finds : String → String → Prop} {found : List LinkId} {resolver next : Resolver}
  {id : GroupId}

/-- What is done without notice keeps the last word if it does so on the desk. -/
theorem quiet (h : resolver.UpToDate finds found) (hquiet : Desk.Quiet resolver.desk next.desk)
    (htruthful : next.Truthful finds) (hword : next.desk.KeepsWord) :
    next.UpToDate finds found where
  truthful := htruthful
  numbered := h.numbered.of_eq hquiet.board.seats hquiet.board.urls hquiet.board.issued
    hquiet.board.known
  word := hword

theorem workOnce (h : resolver.UpToDate finds found) : resolver.workOnce.UpToDate finds found := by
  refine h.quiet resolver.quiet_workOnce h.truthful.workOnce ?_
  cases hnext : resolver.pool.next? with
  | none =>
    unfold Resolver.workOnce
    rw [hnext]
    exact h.word
  | some task =>
    obtain ⟨task, next⟩ := task
    rw [workOnce_eq hnext]
    exact h.word.performs h.numbered h.truthful.isTrue h.truthful.finds_eq
      (Desk.performs task resolver.desk) (h.truthful.unknown_job hnext)

theorem act (h : resolver.UpToDate finds found) {action : Action}
    (hput : ∀ url title, action ≠ .put url title)
    (hrunning : (resolver.act action).isStopped = false) :
    (resolver.act action).UpToDate finds found := by
  have hquiet := resolver.quiet_act action
  refine h.quiet hquiet (h.truthful.act hput) ?_
  have hbefore := hquiet.running hrunning
  cases action with
  | release url => exact h.word
  | work => exact h.workOnce.word
  | postpone => exact h.word
  | dispatch => exact h.word.of_outline (.refl _) rfl (Outbox.log_dispatch hbefore)
  | settle =>
    have hwork : resolver.work.UpToDate finds found :=
      work_induction (P := UpToDate finds found) (fun _ => workOnce) resolver h
    exact hwork.word.of_outline (.refl _) rfl (Outbox.log_deliver hrunning)
  | lookup url => exact h.word
  | put url title => exact absurd rfl (hput url title)
  | clear => exact h.word
  | stop => cases hrunning

theorem resolves (h : resolver.UpToDate finds found) (hresult : Resolves resolver id next)
    (hrunning : resolver.isStopped = false) : next.UpToDate finds found := by
  refine h.quiet hresult.quiet (h.truthful.resolves hresult) ?_
  cases hresult with
  | unknown => exact h.word
  | cached cluster title metrics hcluster hfind =>
    have htrue := h.truthful.isTrue
    have htitle : finds cluster.url title :=
      htrue.cache cluster.url title (TitleCache.mem_of_find? hfind)
    have hused : Desk.KeepsWord { resolver.desk with
        cache := resolver.desk.cache.use cluster.url, metrics := metrics } := h.word
    show (resolveFromCache _ id cluster title).KeepsWord
    unfold resolveFromCache
    simp only
    split
    · -- Nothing is told when the cluster has this very title.
      rename_i htold
      have hboard := (resolver.desk.board.sameOutline_setTitle id title).trans
        (Board.sameOutline_markResolved _ id)
      exact hused.of_outline hboard (Board.links_setTitle_self hcluster htold) rfl
    · exact hused.named h.numbered (htrue.use cluster.url metrics) h.truthful.finds_eq hrunning
        hcluster htitle
  | unwanted => exact h.word
  | busy => exact h.word
  | begun cluster metrics board pool hcluster hbegin =>
    refine h.word.of_outline (Board.sameOutline_begin? hbegin) ?_ rfl
    rw [Board.eq_of_begin?_eq_some hbegin]
    rfl
  | refused metrics board hbegin =>
    have hboard := (Board.sameOutline_begin? hbegin).trans (board.sameOutline_giveUp id)
    refine h.word.of_outline hboard ?_ rfl
    rw [Board.eq_of_begin?_eq_some hbegin]
    rfl

theorem resolveAll (h : resolver.UpToDate finds found) {ids : List GroupId}
    (hrunning : (resolver.resolveAll ids).isStopped = false) :
    (resolver.resolveAll ids).UpToDate finds found := by
  unfold Resolver.resolveAll at hrunning ⊢
  induction ids generalizing resolver with
  | nil => exact h
  | cons id ids ih =>
    have hbefore : resolver.isStopped = false :=
      (resolver.quiet_resolveAll (id :: ids)).running hrunning
    exact ih (h.resolves (resolver.resolves id) hbefore) hrunning

end UpToDate

end Resolver

end LinkDigest
