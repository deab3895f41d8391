import LinkDigest.Proofs.Title.Exclusion
import LinkDigest.Proofs.Title.Silence
import Mathlib.Algebra.GroupWithZero.Nat

/-!
# The cache comes first

The cache is looked into when a title is asked for, and a search is queued only where it has
none. When the search is begun later on, it is not looked into again. So a page whose title
is in the cache is opened only if the title was stored while the search was queued.
-/

namespace LinkDigest

/-! ## The links of groups -/

namespace Board

/-- The link of a group. -/
def urlOf? (board : Board) (id : GroupId) : Option String := (board.cluster? id).map Cluster.url

/-- Groups keep their links. -/
def KeepsUrls (before after : Board) : Prop :=
  ∀ id url, before.urlOf? id = some url → after.urlOf? id = some url

variable {a b c : Board}

theorem KeepsUrls.refl (board : Board) : board.KeepsUrls board := fun _ _ h => h

theorem KeepsUrls.trans (h : a.KeepsUrls b) (h' : b.KeepsUrls c) : a.KeepsUrls c :=
  fun id url hurl => h' id url (h id url hurl)

theorem SameOutline.keepsUrls (h : a.SameOutline b) : a.KeepsUrls b := by
  intro id url hurl
  obtain ⟨cluster, hcluster, rfl⟩ := Option.map_eq_some_iff.mp hurl
  obtain ⟨next, hnext, hsame⟩ := h.cluster? hcluster
  rw [urlOf?, hnext, Option.map_some, (Cluster.eq_of_untitled hsame).1]

theorem SameSearches.keepsUrls (h : a.SameSearches b) : a.KeepsUrls b := by
  intro id url hurl
  obtain ⟨cluster, hcluster, rfl⟩ := Option.map_eq_some_iff.mp hurl
  obtain ⟨group, hgroup, hlink⟩ := Option.bind_eq_some_iff.mp hcluster
  obtain ⟨next, hnext, hsame, -⟩ := h.group id group hgroup
  rw [urlOf?, cluster?, hnext, Option.bind_some, hsame, h.link group.link cluster hlink]
  rfl

theorem keepsUrls_addGroup (board : Board) (group : Group) :
    board.KeepsUrls (board.addGroup group) := by
  intro id url hurl
  obtain ⟨cluster, hcluster, rfl⟩ := Option.map_eq_some_iff.mp hurl
  obtain ⟨old, hold, hlink⟩ := Option.bind_eq_some_iff.mp hcluster
  have hkept : (board.addGroup group).groups[id]? = some old := by
    rw [addGroup, List.getElem?_append_left (List.getElem?_eq_some_iff.mp hold).1, hold]
  rw [urlOf?, cluster?, hkept, Option.bind_some]
  exact congrArg (Option.map Cluster.url) hlink

end Board

/-! ## Pages opened -/

namespace Desk

/-- A task opens one page, that of the group it starts on, or none. -/
theorem opened_perform (task : Task GroupId) (desk : Desk) :
    (perform task desk).1.opened = desk.opened ∨
      ∃ id url, task = .start id ∧ desk.board.urlOf? id = some url ∧
        (perform task desk).1.opened = desk.opened ++ [url] := by
  cases task with
  | resume id =>
    left
    show (desk.resume id).1.opened = desk.opened
    unfold resume
    split
    · rfl
    · split
      · rfl
      · simp
  | start id =>
    have hstart : perform (.start id) desk = desk.start id := rfl
    rw [hstart]
    unfold start
    split
    · exact .inl rfl
    · split
      · exact .inl rfl
      · cases hcluster : desk.board.cluster? id with
        | none => exact .inl rfl
        | some cluster =>
          simp only
          split
          · exact .inl (by simp)
          · exact .inr ⟨id, cluster.url, rfl, by simp [Board.urlOf?, hcluster], by simp⟩

end Desk

/-! ## Searches queued -/

namespace Resolver

/-- Whether a title is in the cache. -/
def knows (resolver : Resolver) (url : String) : Bool := resolver.desk.cache.contains url

/-- The queue is longer at its end, by searches for links whose titles are not in the cache. -/
def AddsUnknown (before after : Resolver) : Prop :=
  ∃ added, after.pool.queue = before.pool.queue ++ added ∧
    ∀ id ∈ added, ∃ url, after.desk.board.urlOf? id = some url ∧ after.knows url = false

/-- Searches are taken from the front of the queue, or added at its end for links whose titles
are not in the cache. -/
def QueuesUnknown (before after : Resolver) : Prop :=
  after.pool.queue <:+ before.pool.queue ∨ AddsUnknown before after

/-- What is done without a task and without storing a title or taking one away: no page is
opened, and of the searches only those for titles that are not in the cache are queued. -/
structure Asks (before after : Resolver) : Prop where
  urls : before.desk.board.KeepsUrls after.desk.board
  opened : after.desk.opened = before.desk.opened
  knows : ∀ url, after.knows url = before.knows url
  queue : AddsUnknown before after

/-- What one action does: pages are opened by tasks, and of the searches only those for titles
that are not in the cache are queued. -/
structure Advances (before after : Resolver) : Prop where
  urls : before.desk.board.KeepsUrls after.desk.board
  opened : ∃ n, after.desk.opened = (workOnce^[n] before).desk.opened
  queue : QueuesUnknown before after

variable {a b c resolver next : Resolver}

theorem Asks.of_queue (hurls : a.desk.board.KeepsUrls b.desk.board)
    (hopened : b.desk.opened = a.desk.opened) (hknows : ∀ url, b.knows url = a.knows url)
    (hqueue : b.pool.queue = a.pool.queue) : Asks a b :=
  ⟨hurls, hopened, hknows, [], by rw [hqueue, List.append_nil], nofun⟩

theorem Asks.refl (resolver : Resolver) : Asks resolver resolver :=
  .of_queue (.refl _) rfl (fun _ => rfl) rfl

theorem AddsUnknown.trans (h : AddsUnknown a b) (h' : Asks b c) : AddsUnknown a c := by
  obtain ⟨added, hadded, hunknown⟩ := h
  obtain ⟨more, hmore, hunknownMore⟩ := h'.queue
  refine ⟨added ++ more, by rw [hmore, hadded, List.append_assoc], fun id hid => ?_⟩
  rcases List.mem_append.mp hid with hid | hid
  · obtain ⟨url, hurl, hmiss⟩ := hunknown id hid
    exact ⟨url, h'.urls id url hurl, (h'.knows url).trans hmiss⟩
  · exact hunknownMore id hid

theorem Asks.trans (h : Asks a b) (h' : Asks b c) : Asks a c :=
  ⟨h.urls.trans h'.urls, h'.opened.trans h.opened, fun url => (h'.knows url).trans (h.knows url),
    h.queue.trans h'⟩

theorem Asks.advances (h : Asks a b) : Advances a b := ⟨h.urls, ⟨0, h.opened⟩, .inr h.queue⟩

/-! ## Asking for titles -/

/-- A search is begun only after the cache has been looked into. -/
theorem Resolves.asks {id : GroupId} (h : Resolves resolver id next) : Asks resolver next := by
  have hurls := h.quiet.board.keepsUrls
  cases h with
  | unknown => exact .refl _
  | cached cluster title metrics =>
    exact .of_queue hurls (by simp) (fun url => by simp [knows]) rfl
  | unwanted => exact .of_queue hurls rfl (fun _ => rfl) rfl
  | busy => exact .of_queue hurls rfl (fun _ => rfl) rfl
  | begun cluster metrics board pool hcluster hbegin hsubmit hmiss =>
    refine ⟨hurls, rfl, fun _ => rfl, [id], Pool.queue_submit hsubmit, fun other hother => ?_⟩
    rw [List.mem_singleton.mp hother]
    refine ⟨cluster.url, hurls id cluster.url ?_, ?_⟩
    · rw [Board.urlOf?, hcluster, Option.map_some]
    · show (resolver.desk.cache.find? cluster.url).isSome = false
      rw [hmiss]
      rfl
  | refused => exact .of_queue hurls rfl (fun _ => rfl) rfl

theorem asks_resolveAll (resolver : Resolver) (ids : List GroupId) :
    Asks resolver (resolver.resolveAll ids) := by
  unfold resolveAll
  induction ids generalizing resolver with
  | nil => exact .refl resolver
  | cons id ids ih => exact (resolver.resolves id).asks.trans (ih _)

/-! ## Tasks -/

theorem queue_workOnce (resolver : Resolver) :
    resolver.workOnce.pool.queue <:+ resolver.pool.queue := by
  unfold workOnce
  split
  · exact List.suffix_rfl
  · rename_i task rest hnext
    simp only [Pool.queue_after]
    rcases Pool.next?_cases hnext with ⟨job, -, hqueue, -⟩ | ⟨job, -, hqueue, -⟩
    · rw [hqueue]
      exact List.suffix_cons ..
    · rw [hqueue]

/-- With some tasks done. -/
theorem advances_iterate (resolver : Resolver) (n : Nat) :
    Advances resolver (workOnce^[n] resolver) := by
  refine ⟨?_, ⟨n, rfl⟩, .inl ?_⟩
  · induction n with
    | zero => exact .refl _
    | succ n ih =>
      rw [Function.iterate_succ_apply']
      exact ih.trans (quiet_workOnce _).board.keepsUrls
  · induction n with
    | zero => exact List.suffix_rfl
    | succ n ih =>
      rw [Function.iterate_succ_apply']
      exact (queue_workOnce _).trans ih

theorem exists_iterate_eq_work (resolver : Resolver) : ∃ n, resolver.work = workOnce^[n] resolver :=
  work_induction (P := fun next => ∃ n, next = workOnce^[n] resolver)
    (fun next ⟨n, hn⟩ => ⟨n + 1, by rw [Function.iterate_succ_apply', hn]⟩) resolver ⟨0, rfl⟩

/-- A task opens a page only for the first search in the queue, which it takes. -/
theorem opened_workOnce (resolver : Resolver) :
    resolver.workOnce.desk.opened = resolver.desk.opened ∨
      ∃ id url, resolver.pool.queue = id :: resolver.workOnce.pool.queue ∧
        resolver.desk.board.urlOf? id = some url ∧
        resolver.workOnce.desk.opened = resolver.desk.opened ++ [url] := by
  unfold workOnce
  cases hnext : resolver.pool.next? with
  | none => exact .inl rfl
  | some found =>
    obtain ⟨task, rest⟩ := found
    refine (Desk.opened_perform task resolver.desk).imp_right ?_
    rintro ⟨id, url, rfl, hurl, hopened⟩
    refine ⟨id, url, ?_, hurl, hopened⟩
    rcases Pool.next?_cases hnext with ⟨job, htask, hqueue, -⟩ | ⟨job, htask, -, -⟩
    · cases htask
      rw [hqueue, Pool.queue_after]
    · cases htask

/-! ## Whatever is done -/

theorem advances_act (resolver : Resolver) (action : Action) :
    Advances resolver (resolver.act action) := by
  have hurls := (resolver.quiet_act action).board.keepsUrls
  cases action with
  | release url =>
    exact (Asks.of_queue hurls rfl (fun _ => rfl) (resolver.pool.queue_release url)).advances
  | work => exact resolver.advances_iterate 1
  | postpone => exact (Asks.of_queue hurls rfl (fun _ => rfl) rfl).advances
  | dispatch => exact (Asks.of_queue hurls rfl (fun _ => rfl) rfl).advances
  | settle =>
    obtain ⟨n, hwork⟩ := resolver.exists_iterate_eq_work
    have hworked : Advances resolver resolver.work := hwork ▸ resolver.advances_iterate n
    -- Delivering events changes nothing of it.
    exact ⟨hworked.urls, hworked.opened, hworked.queue⟩
  | lookup url =>
    have hknows := resolver.desk.cache.contains_use url
    exact (Asks.of_queue hurls rfl hknows rfl).advances
  | put url title => exact ⟨hurls, ⟨0, rfl⟩, .inl List.suffix_rfl⟩
  | clear => exact ⟨hurls, ⟨0, rfl⟩, .inl List.suffix_rfl⟩
  | stop => exact (Asks.of_queue hurls rfl (fun _ => rfl) rfl).advances

theorem asks_modifyBoard (resolver : Resolver) (change : Board → Board)
    (h : ∀ board : Board, board.KeepsUrls (change board)) :
    Asks resolver (resolver.modifyBoard change) := .of_queue (h _) rfl (fun _ => rfl) rfl

theorem advances_move (resolver : Resolver) (move : Move) :
    Advances resolver (resolver.move move) := by
  cases move with
  | addLink cluster =>
    exact (resolver.asks_modifyBoard (fun board => board.addLink cluster) fun board =>
      (board.sameSearches_addLinks [cluster]).keepsUrls).advances
  | addGroup seq link =>
    exact (resolver.asks_modifyBoard (fun board => board.addGroup (Group.new seq link)) fun board =>
      board.keepsUrls_addGroup _).advances
  | setVisible id isVisible =>
    exact (resolver.asks_modifyBoard (fun board => board.setVisible id isVisible) fun board =>
      (board.sameHidden_setVisible id isVisible).sameSearches.keepsUrls).advances
  | resolve id => exact (resolver.resolves id).asks.advances
  | act action => exact resolver.advances_act action

/-! ## Runs -/

section

variable {α : Type} (run : List α → Resolver)

/-- How many searches have been taken from the queue. -/
def taken (actions : List α) : Nat :=
  ((List.range actions.length).map fun n =>
    (run (actions.take n)).pool.queue.length - (run (actions.take (n + 1))).pool.queue.length).sum

/-- Whether the search of this number, in the order in which they were queued, is in the queue,
and for this group. -/
def Waits (actions : List α) (number : Nat) (id : GroupId) : Prop :=
  ∃ place, number = taken run actions + place ∧ (run actions).pool.queue[place]? = some id

/-- While the search of this number was queued a title of the link was stored, which has been
in the cache ever since, and the search in the queue. -/
def StoredMeanwhile (actions : List α) (number : Nat) (id : GroupId) (url : String) : Prop :=
  ∃ earlier action later, actions = earlier ++ action :: later ∧
    Waits run earlier number id ∧ (run earlier).knows url = false ∧
    ∀ since, since <+: later →
      Waits run (earlier ++ action :: since) number id ∧
        (run (earlier ++ action :: since)).knows url

/-- In every run the cache is looked into first. -/
structure CacheFirst (work : α) : Prop where
  /-- A search is queued only for a title that is not in the cache. -/
  queues : ∀ actions action, QueuesUnknown (run actions) (run (actions ++ [action]))
  /-- Pages are opened by tasks only. -/
  opened : ∀ actions action, ∃ n, (run (actions ++ [action])).desk.opened =
    (run (actions ++ List.replicate n work)).desk.opened
  /-- A task opens at most one page, for the first search in the queue, which it takes. If the
  title is in the cache by then, it was stored while that very search was queued. -/
  opens : ∀ actions,
    (run (actions ++ [work])).desk.opened = (run actions).desk.opened ∨
      ∃ id url, (run actions).pool.queue = id :: (run (actions ++ [work])).pool.queue ∧
        (run (actions ++ [work])).desk.opened = (run actions).desk.opened ++ [url] ∧
        (run actions).desk.board.urlOf? id = some url ∧
        ((run actions).knows url → StoredMeanwhile run actions (taken run actions) id url)

variable {run}

theorem taken_concat (actions : List α) (action : α) : taken run (actions ++ [action]) =
    taken run actions +
      ((run actions).pool.queue.length - (run (actions ++ [action])).pool.queue.length) := by
  have hbefore : ∀ n ∈ List.range actions.length,
      (run ((actions ++ [action]).take n)).pool.queue.length -
          (run ((actions ++ [action]).take (n + 1))).pool.queue.length =
        (run (actions.take n)).pool.queue.length -
          (run (actions.take (n + 1))).pool.queue.length := by
    intro n hn
    have hlt := List.mem_range.mp hn
    rw [List.take_append_of_le_length hlt.le, List.take_append_of_le_length hlt]
  have hwhole : (actions ++ [action]).take (actions.length + 1) = actions ++ [action] :=
    List.take_of_length_le (by simp)
  rw [taken, List.length_append, List.length_singleton, List.range_succ, List.map_append,
    List.sum_append, List.map_congr_left hbefore, List.map_singleton, List.sum_singleton,
    List.take_left, hwhole]
  rfl

/-- A search keeps its number: what is taken before it brings it forward. -/
theorem waits_of_suffix {actions : List α} {action : α}
    (h : (run (actions ++ [action])).pool.queue <:+ (run actions).pool.queue) {place : Nat}
    {id : GroupId} (hid : (run (actions ++ [action])).pool.queue[place]? = some id) :
    ∃ before, taken run actions + before = taken run (actions ++ [action]) + place ∧
      (run actions).pool.queue[before]? = some id := by
  obtain ⟨front, hfront⟩ := h
  refine ⟨front.length + place, ?_, ?_⟩
  · rw [taken_concat, ← hfront, List.length_append]
    omega
  · rw [← hfront, List.getElem?_append_right (Nat.le_add_right ..), Nat.add_sub_cancel_left, hid]

theorem taken_of_longer {actions : List α} {action : α} {added : List GroupId}
    (h : (run (actions ++ [action])).pool.queue = (run actions).pool.queue ++ added) :
    taken run (actions ++ [action]) = taken run actions := by
  rw [taken_concat, h, List.length_append]
  omega

theorem StoredMeanwhile.concat {actions : List α} {action : α} {number : Nat} {id : GroupId}
    {url : String} (h : StoredMeanwhile run actions number id url)
    (hid : Waits run (actions ++ [action]) number id)
    (hknows : (run (actions ++ [action])).knows url) :
    StoredMeanwhile run (actions ++ [action]) number id url := by
  obtain ⟨earlier, storing, later, rfl, hqueued, hunknown, hsince⟩ := h
  refine ⟨earlier, storing, later ++ [action], by simp, hqueued, hunknown, fun since hbegins => ?_⟩
  rcases List.prefix_concat_iff.mp hbegins with rfl | hbegins
  · simpa using And.intro hid hknows
  · exact hsince since hbegins

variable {work : α} (hstart : (run []).pool.queue = [])
  (hstep : ∀ actions action, Advances (run actions) (run (actions ++ [action])))

include hstart hstep

/-- A title that is in the cache although a search for it is queued was stored meanwhile. -/
theorem storedMeanwhile_of_queue (actions : List α) (place : Nat) (id : GroupId)
    (hid : (run actions).pool.queue[place]? = some id) :
    ∃ url, (run actions).desk.board.urlOf? id = some url ∧
      ((run actions).knows url →
        StoredMeanwhile run actions (taken run actions + place) id url) := by
  induction actions using List.reverseRecOn generalizing place with
  | nil =>
    rw [hstart] at hid
    cases hid
  | append_singleton actions action ih =>
    have hadvances := hstep actions action
    -- A search that was there before: it has kept its number.
    have hkept : ∀ before, taken run actions + before = taken run (actions ++ [action]) + place →
        (run actions).pool.queue[before]? = some id →
        ∃ url, (run (actions ++ [action])).desk.board.urlOf? id = some url ∧
          ((run (actions ++ [action])).knows url → StoredMeanwhile run (actions ++ [action])
            (taken run (actions ++ [action]) + place) id url) := by
      intro before hnumber hold
      obtain ⟨url, hurl, hstored⟩ := ih before hold
      rw [hnumber] at hstored
      refine ⟨url, hadvances.urls id url hurl, fun hknows => ?_⟩
      cases hbefore : (run actions).knows url with
      | true => exact (hstored hbefore).concat ⟨place, rfl, hid⟩ hknows
      | false =>
        -- The title has just come.
        refine ⟨actions, action, [], rfl, ⟨before, hnumber.symm, hold⟩, hbefore,
          fun since hbegins => ?_⟩
        rw [List.prefix_nil.mp hbegins]
        exact ⟨⟨place, rfl, hid⟩, hknows⟩
    rcases hadvances.queue with hsuffix | ⟨added, hadded, hunknown⟩
    · obtain ⟨before, hnumber, hold⟩ := waits_of_suffix hsuffix hid
      exact hkept before hnumber hold
    · by_cases hplace : place < (run actions).pool.queue.length
      · refine hkept place (by rw [taken_of_longer hadded]) ?_
        rwa [hadded, List.getElem?_append_left hplace] at hid
      · rw [hadded, List.getElem?_append_right (Nat.le_of_not_lt hplace)] at hid
        obtain ⟨url, hurl, hmiss⟩ := hunknown id (List.mem_of_getElem? hid)
        refine ⟨url, hurl, fun hknows => ?_⟩
        rw [hmiss] at hknows
        cases hknows

theorem cacheFirst_of_advances
    (hwork : ∀ actions, run (actions ++ [work]) = (run actions).workOnce) :
    CacheFirst run work where
  queues actions action := (hstep actions action).queue
  opened actions action := by
    have hiterate : ∀ n, run (actions ++ List.replicate n work) = workOnce^[n] (run actions) := by
      intro n
      induction n with
      | zero => rw [List.replicate_zero, List.append_nil, Function.iterate_zero, id]
      | succ n ih =>
        rw [List.replicate_succ', ← List.append_assoc, hwork, ih, Function.iterate_succ_apply']
    obtain ⟨n, hopened⟩ := (hstep actions action).opened
    exact ⟨n, by rw [hopened, hiterate]⟩
  opens actions := by
    rw [hwork]
    refine (run actions).opened_workOnce.imp_right ?_
    rintro ⟨id, url, hqueue, hurl, hopened⟩
    have hfirst : (run actions).pool.queue[0]? = some id := by rw [hqueue, List.getElem?_cons_zero]
    obtain ⟨known, hknown, hstored⟩ := storedMeanwhile_of_queue hstart hstep actions 0 id hfirst
    rw [hurl, Option.some.injEq] at hknown
    exact ⟨id, url, hqueue, hopened, hurl, hknown ▸ hstored⟩

end

end Resolver

end LinkDigest
