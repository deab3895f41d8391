import LinkDigest.Proofs.Board.Views
import LinkDigest.Proofs.Title.Resolver

/-!
# A resolver that has been stopped

Searches that are under way when a resolver is stopped come to nothing: they are given
up when they would go on, and no other is begun. So no page is opened, no title is set
or stored, no group is resolved, and of the events on their way the updates are dropped
and all others delivered in turn.
-/

namespace LinkDigest

/-! ## Titles in the cache -/

namespace TitleCache

variable {cache : TitleCache} {url other title found : String}

theorem lookup_filter_ne (entries : List (String × String)) (h : other ≠ url) :
    (entries.filter fun entry => entry.1 ≠ url).lookup other = entries.lookup other := by
  induction entries with
  | nil => rfl
  | cons entry rest ih =>
    obtain ⟨key, value⟩ := entry
    by_cases hkey : key = url
    · have hne : (other == key) = false := by simpa [hkey] using h
      rw [List.filter_cons_of_neg (by simpa using hkey), ih, List.lookup_cons, hne]
    · rw [List.filter_cons_of_pos (by simpa using hkey), List.lookup_cons, List.lookup_cons, ih]

/-- A title used is still that of its link. -/
@[simp] theorem find?_use (cache : TitleCache) (url other : String) :
    (cache.use url).find? other = cache.find? other := by
  unfold use
  split
  · rename_i title htitle
    show ((url, title) :: (cache.erase url).entries).lookup other = _
    rw [List.lookup_cons]
    split
    · rename_i hsame
      rw [beq_iff_eq.mp hsame, htitle]
    · rename_i hother
      exact lookup_filter_ne cache.entries (by simpa using hother)
  · rfl

@[simp] theorem contains_use (cache : TitleCache) (url other : String) :
    (cache.use url).contains other = cache.contains other := by
  simp [contains]

/-- A title in the cache after one was stored is that one or was there before. -/
theorem of_find?_put (h : (cache.put url title).find? other = some found) :
    cache.find? other = some found ∨ other = url ∧ found = title := by
  have hfull : ((url, title) :: (cache.erase url).entries).lookup other = some found := by
    rw [← List.take_append_drop cache.capacity ((url, title) :: _), List.lookup_append]
    exact Option.or_eq_some_iff.mpr (.inl h)
  rw [List.lookup_cons] at hfull
  split at hfull
  · rename_i hsame
    exact .inr ⟨beq_iff_eq.mp hsame, (Option.some.inj hfull).symm⟩
  · rename_i hother
    rw [erase, lookup_filter_ne cache.entries (by simpa using hother)] at hfull
    exact .inl hfull

end TitleCache

/-! ## Groups whose searches may have been given up -/

/-- The group as it is when its search, if there is one, has been given up. -/
def Group.abandoned (group : Group) : Group :=
  if group.resolution = .resolving then { group with resolution := .unresolved } else group

namespace Board

/-- Only searches have been given up. -/
structure GivesUp (before after : Board) : Prop where
  links : after.links = before.links
  groups : after.groups.map Group.abandoned = before.groups.map Group.abandoned
  visible : after.visible = before.visible

theorem GivesUp.refl (board : Board) : GivesUp board board := ⟨rfl, rfl, rfl⟩

theorem GivesUp.trans {a b c : Board} (h : GivesUp a b) (h' : GivesUp b c) : GivesUp a c :=
  ⟨h'.links.trans h.links, h'.groups.trans h.groups, h'.visible.trans h.visible⟩

theorem givesUp_giveUp (board : Board) (id : GroupId) : GivesUp board (board.giveUp id) where
  links := rfl
  groups := map_modify_of_eq Group.abandoned Group.abandoned (fun group => by
    cases group with
    | mk seq link isVisible resolution items => cases resolution <;> rfl) board.groups id
  visible := rfl

variable {before after : Board}

theorem GivesUp.group (h : GivesUp before after) (id : GroupId) :
    (after.groups[id]?).map Group.abandoned = (before.groups[id]?).map Group.abandoned := by
  have hplace := congrArg (fun groups => groups[id]?) h.groups
  simpa only [List.getElem?_map] using hplace

/-- A group that is resolved is so whatever is given up. -/
theorem resolved_abandoned (group : Group) :
    group.abandoned.resolution = .resolved ↔ group.resolution = .resolved := by
  cases group with
  | mk seq link isVisible resolution items => cases resolution <;> simp [Group.abandoned]

theorem view_abandoned (group : Group) (cluster : Cluster) :
    group.abandoned.view cluster = group.view cluster := by
  cases group with
  | mk seq link isVisible resolution items => cases resolution <;> rfl

theorem GivesUp.resolution? (h : GivesUp before after) (id : GroupId) :
    after.resolution? id = some .resolved ↔ before.resolution? id = some .resolved := by
  have hresolved : ∀ board : Board, board.resolution? id = some .resolved ↔
      ((board.groups[id]?).map Group.abandoned).map Group.resolution = some .resolved := by
    intro board
    cases hgroup : board.groups[id]? with
    | none => simp [Board.resolution?, hgroup]
    | some group => simp [Board.resolution?, hgroup, resolved_abandoned]
  rw [hresolved, hresolved, h.group]

theorem GivesUp.view? (h : GivesUp before after) (id : GroupId) :
    after.view? id = before.view? id := by
  have hview : ∀ board : Board, board.view? id =
      ((board.groups[id]?).map Group.abandoned).bind fun group =>
        (board.links[group.link]?).map group.view := by
    intro board
    cases hgroup : board.groups[id]? with
    | none => simp [Board.view?, hgroup]
    | some group =>
      have hlink : group.abandoned.link = group.link := by
        unfold Group.abandoned
        split <;> rfl
      cases hcluster : board.links[group.link]? with
      | none => simp [Board.view?, hgroup, hlink, hcluster]
      | some cluster =>
        rw [view?_eq hgroup hcluster, ← view_abandoned]
        simp [hlink, hcluster]
  rw [hview, hview, h.group, h.links]

theorem GivesUp.visibleViews (h : GivesUp before after) :
    after.visibleViews = before.visibleViews := by
  unfold Board.visibleViews
  rw [h.visible, funext h.view?]

end Board

/-! ## Events on their way -/

namespace Outbox

/-- Of the events on their way some more have been delivered, in turn and without the
updates; the others that are no updates still are on their way. -/
def Drains (before after : Outbox) : Prop :=
  ∃ told, after.delivered = before.delivered ++ told ∧
    lasting before.waiting = told ++ lasting after.waiting

theorem Drains.refl (outbox : Outbox) : Drains outbox outbox := ⟨[], (List.append_nil _).symm, rfl⟩

theorem Drains.trans {a b c : Outbox} (h : Drains a b) (h' : Drains b c) : Drains a c := by
  obtain ⟨told, hdelivered, hwaiting⟩ := h
  obtain ⟨more, hdelivered', hwaiting'⟩ := h'
  refine ⟨told ++ more, ?_, ?_⟩
  · rw [hdelivered', hdelivered, List.append_assoc]
  · rw [hwaiting, hwaiting', List.append_assoc]

/-- Once stopped, an event passes if it is no update. -/
theorem passes_of_stopped {outbox : Outbox} (h : outbox.isStopped) (event : Event) :
    outbox.passes event = !event.isUpdate := by
  simp [passes, h]

theorem drains_dispatch {outbox : Outbox} (h : outbox.isStopped) :
    Drains outbox outbox.dispatch := by
  unfold dispatch
  split
  · exact .refl outbox
  · rename_i event rest hwaiting
    refine ⟨lasting [event], ?_, ?_⟩
    · cases hupdate : event.isUpdate <;>
        simp [passes_of_stopped h, hupdate, lasting]
    · rw [hwaiting, ← lasting_append]
      rfl

theorem drains_deliver {outbox : Outbox} (h : outbox.isStopped) : Drains outbox outbox.deliver := by
  refine ⟨lasting outbox.waiting, ?_, (List.append_nil _).symm⟩
  show outbox.delivered ++ outbox.waiting.filter outbox.passes = _
  rw [funext (passes_of_stopped h)]
  rfl

end Outbox

/-! ## What is left to do -/

/-- What becomes of a desk that is stopped when nothing is stored in its cache but
these titles. -/
structure Desk.Silent (stored : String → String → Prop) (before after : Desk) : Prop where
  isStopped : after.isStopped
  opened : after.opened = before.opened
  board : before.board.GivesUp after.board
  outbox : before.outbox.Drains after.outbox
  cache : ∀ url title, after.cache.find? url = some title →
    before.cache.find? url = some title ∨ stored url title

namespace Desk.Silent

variable {stored : String → String → Prop} {before desk after : Desk}

theorem refl (h : desk.isStopped) : Silent stored desk desk :=
  ⟨h, rfl, .refl _, .refl _, fun _ _ hfind => .inl hfind⟩

theorem trans (h : Silent stored before desk) (h' : Silent stored desk after) :
    Silent stored before after where
  isStopped := h'.isStopped
  opened := h'.opened.trans h.opened
  board := h.board.trans h'.board
  outbox := h.outbox.trans h'.outbox
  cache url title hfind := (h'.cache url title hfind).elim (h.cache url title) .inr

/-- Once stopped, a task does no more than give up the search it is for. -/
theorem perform (h : desk.isStopped) (task : Task GroupId) :
    Silent stored desk (Desk.perform task desk).1 := by
  cases task with
  | start id =>
    have hstart : Desk.start desk id = (desk, .finished) := if_pos h
    show Silent stored desk (Desk.start desk id).1
    rw [hstart]
    exact refl h
  | resume id =>
    have hresume : Desk.resume desk id = (desk.giveUp id, .finished) := if_pos h
    show Silent stored desk (Desk.resume desk id).1
    rw [hresume]
    exact ⟨h, rfl, desk.board.givesUp_giveUp id, .refl _, fun _ _ hfind => .inl hfind⟩

end Desk.Silent

namespace Resolver

variable {stored : String → String → Prop}

/-- Stopping puts an end to all searches, queued, waiting or under way. -/
theorem silent_stop (resolver : Resolver) :
    Desk.Silent stored resolver.desk resolver.stop.desk :=
  ⟨rfl, rfl, .refl _, .refl _, fun _ _ hfind => .inl hfind⟩

theorem silent_workOnce {resolver : Resolver} (h : resolver.isStopped) :
    Desk.Silent stored resolver.desk resolver.workOnce.desk := by
  unfold workOnce
  split
  · exact .refl h
  · rename_i task next _
    exact .perform h task

theorem silent_work {resolver : Resolver} (h : resolver.isStopped) :
    Desk.Silent stored resolver.desk resolver.work.desk :=
  work_induction (P := fun next => Desk.Silent stored resolver.desk next.desk)
    (fun _ hnext => hnext.trans (silent_workOnce hnext.isStopped)) resolver (.refl h)

theorem silent_deliver {resolver : Resolver} (h : resolver.isStopped) :
    Desk.Silent stored resolver.desk resolver.deliver.desk :=
  ⟨h, rfl, .refl _, Outbox.drains_deliver h, fun _ _ hfind => .inl hfind⟩

/-- Whatever is done with a resolver that has been stopped, of titles there come only
those that are put into its cache. -/
theorem silent_act {resolver : Resolver} (h : resolver.isStopped) (action : Action)
    (hstored : ∀ url title, action = .put url title → stored url title) :
    Desk.Silent stored resolver.desk (resolver.act action).desk := by
  cases action with
  | release url => exact .refl h
  | work => exact silent_workOnce h
  | postpone => exact .refl h
  | dispatch =>
    have hstopped : resolver.desk.outbox.dispatch.isStopped := by
      unfold Outbox.dispatch
      split <;> exact h
    exact ⟨hstopped, rfl, .refl _, Outbox.drains_dispatch h, fun _ _ hfind => .inl hfind⟩
  | settle =>
    have hwork : Desk.Silent stored resolver.desk resolver.work.desk := silent_work h
    exact hwork.trans (silent_deliver hwork.isStopped)
  | lookup url =>
    refine ⟨h, rfl, .refl _, .refl _, fun other title hfind => .inl ?_⟩
    exact (resolver.desk.cache.find?_use url other).symm.trans hfind
  | put url title =>
    refine ⟨h, rfl, .refl _, .refl _, fun other found hfind => ?_⟩
    refine (TitleCache.of_find?_put hfind).imp_right ?_
    rintro ⟨rfl, rfl⟩
    exact hstored _ _ rfl
  | clear => exact ⟨h, rfl, .refl _, .refl _, fun _ _ hfind => nomatch hfind⟩
  | stop => exact resolver.silent_stop

end Resolver

end LinkDigest
