import LinkDigest.Proofs.Board.Groups

/-!
# Searches and the board

Three things are to be true of a board on which titles are searched for: every
search under way is a job of somebody's, a search that ended well has left a
title, and every group in sight has been seen to. For each of them, what becomes
of it when a search begins, ends with a title or is given up, and when groups
are made, shown and hidden.
-/

namespace LinkDigest.Board

variable {board before after begun : Board} {id : GroupId} {jobs : List GroupId}

/-- A group after a change is one of another place, or the one changed. -/
theorem of_groups_modifyGroup {change : Group → Group} {place : GroupId} {group : Group}
    (h : (board.modifyGroup id change).groups[place]? = some group) :
    (place ≠ id ∧ board.groups[place]? = some group) ∨
      (place = id ∧ ∃ old, board.groups[id]? = some old ∧ group = change old) := by
  rw [groups_modifyGroup] at h
  by_cases hplace : id = place
  · rw [if_pos hplace] at h
    obtain ⟨old, hold, rfl⟩ := Option.map_eq_some_iff.mp h
    exact .inr ⟨hplace.symm, old, hplace ▸ hold, rfl⟩
  · rw [if_neg hplace] at h
    exact .inl ⟨fun heq => hplace heq.symm, h⟩

theorem eq_of_begin?_eq_some (h : board.begin? id = some begun) :
    begun = board.modifyGroup id fun group => { group with resolution := .resolving } := by
  unfold begin? at h
  split at h
  · cases h
  · cases h
    rfl

/-! ## Jobs -/

/-- Every search under way is one of the jobs. -/
def Owned (board : Board) (jobs : List GroupId) : Prop :=
  ∀ (id : GroupId) (group : Group), board.groups[id]? = some group →
    group.resolution = .resolving → id ∈ jobs

theorem Owned.empty (jobs : List GroupId) : Board.empty.Owned jobs := by
  intro id group hgroup
  simp [Board.empty] at hgroup

theorem Owned.mono (h : board.Owned jobs) {more : List GroupId} (hjobs : ∀ id ∈ jobs, id ∈ more) :
    board.Owned more := fun id group hgroup hsearch => hjobs id (h id group hgroup hsearch)

theorem Owned.modifyGroup {change : Group → Group} (h : board.Owned (id :: jobs))
    (hchange : ∀ group, (change group).resolution ≠ .resolving) :
    (board.modifyGroup id change).Owned jobs := by
  intro place group hgroup hsearch
  rcases of_groups_modifyGroup hgroup with ⟨hne, hold⟩ | ⟨-, old, -, rfl⟩
  · exact List.mem_of_ne_of_mem hne (h place group hold hsearch)
  · exact absurd hsearch (hchange old)

theorem Owned.giveUp (h : board.Owned (id :: jobs)) : (board.giveUp id).Owned jobs := by
  refine h.modifyGroup fun group => ?_
  split
  · exact fun hsearch => nomatch hsearch
  · assumption

theorem Owned.resolved (h : board.Owned (id :: jobs)) (title : String) :
    ((board.setTitle id title).markResolved id).Owned jobs := by
  have htitled : (board.setTitle id title).Owned (id :: jobs) := by
    intro place group hgroup
    exact h place group (by simpa using hgroup)
  exact htitled.modifyGroup fun _ hsearch => nomatch hsearch

theorem Owned.begin? (h : board.Owned jobs) (hbegin : board.begin? id = some begun) :
    begun.Owned (id :: jobs) := by
  rw [eq_of_begin?_eq_some hbegin]
  intro place group hgroup hsearch
  rcases of_groups_modifyGroup hgroup with ⟨-, hold⟩ | ⟨rfl, -⟩
  · exact List.mem_cons_of_mem _ (h place group hold hsearch)
  · exact List.mem_cons_self

/-! ## Titles -/

/-- Every search that ended well has left a title. -/
def Titled (board : Board) : Prop :=
  ∀ (id : GroupId) (group : Group) (cluster : Cluster), board.groups[id]? = some group →
    group.resolution = .resolved → board.links[group.link]? = some cluster → cluster.title.isSome

theorem Titled.empty : Board.empty.Titled := by
  intro id group cluster hgroup
  simp [Board.empty] at hgroup

theorem Titled.modifyGroup {change : Group → Group} (h : board.Titled)
    (hlink : ∀ group, (change group).link = group.link)
    (hchange : ∀ group, (change group).resolution = .resolved → group.resolution = .resolved) :
    (board.modifyGroup id change).Titled := by
  intro place group cluster hgroup hfound hcluster
  rcases of_groups_modifyGroup hgroup with ⟨-, hold⟩ | ⟨-, old, hold, rfl⟩
  · exact h place group cluster hold hfound hcluster
  · rw [hlink] at hcluster
    exact h id old cluster hold (hchange old hfound) hcluster

theorem Titled.giveUp (h : board.Titled) : (board.giveUp id).Titled := by
  refine h.modifyGroup (fun group => ?_) fun group => ?_
  · split <;> rfl
  · split
    · exact fun hfound => nomatch hfound
    · exact fun hfound => hfound

theorem Titled.begin? (h : board.Titled) (hbegin : board.begin? id = some begun) :
    begun.Titled := by
  rw [eq_of_begin?_eq_some hbegin]
  exact h.modifyGroup (fun _ => rfl) fun _ hfound => nomatch hfound

/-- A cluster after a title was set has it or is as before. -/
theorem of_links_setTitle {title : String} {place : LinkId} {cluster : Cluster}
    (h : (board.setTitle id title).links[place]? = some cluster) :
    cluster.title = some title ∨ board.links[place]? = some cluster := by
  cases hgroup : board.groups[id]? with
  | none =>
    unfold setTitle at h
    rw [hgroup] at h
    exact .inr h
  | some group =>
    rw [links_setTitle board id title hgroup] at h
    split at h
    · obtain ⟨old, -, rfl⟩ := Option.map_eq_some_iff.mp h
      exact .inl rfl
    · exact .inr h

theorem Titled.resolved (h : board.Titled) (title : String) :
    ((board.setTitle id title).markResolved id).Titled := by
  intro place group cluster hgroup hfound hcluster
  have hlinks : (board.setTitle id title).links[group.link]? = some cluster := hcluster
  rcases of_groups_modifyGroup hgroup with ⟨-, hold⟩ | ⟨-, old, hold, rfl⟩
  · rw [groups_setTitle] at hold
    rcases of_links_setTitle hlinks with htitle | hsame
    · rw [htitle]
      rfl
    · exact h place group cluster hold hfound hsame
  · -- The group is the one whose cluster has just been given the title.
    rw [groups_setTitle] at hold
    rw [links_setTitle board id title hold, if_pos rfl] at hlinks
    obtain ⟨_, -, rfl⟩ := Option.map_eq_some_iff.mp hlinks
    rfl

/-! ## Groups in sight -/

/-- A group is in sight, and its title has been found or is being searched for,
unless that is a search which its page cancels. -/
def Serves (board : Board) (cancels : String → Prop) (id : GroupId) : Prop :=
  ∃ group cluster, board.groups[id]? = some group ∧ board.links[group.link]? = some cluster ∧
    group.isVisible ∧ (group.resolution ≠ .unresolved ∨ cancels cluster.url)

variable {cancels : String → Prop} {place : GroupId}

theorem Serves.modifyGroup {change : Group → Group} (h : board.Serves cancels place)
    (hlink : ∀ group, (change group).link = group.link)
    (hvisible : ∀ group, (change group).isVisible = group.isVisible)
    (hchange : place = id → ∀ group cluster, board.groups[id]? = some group →
      board.links[group.link]? = some cluster → group.resolution ≠ .unresolved ∨
        cancels cluster.url → (change group).resolution ≠ .unresolved ∨ cancels cluster.url) :
    (board.modifyGroup id change).Serves cancels place := by
  obtain ⟨group, cluster, hgroup, hcluster, hsight, hserved⟩ := h
  by_cases hplace : id = place
  · subst hplace
    refine ⟨change group, cluster, ?_, by rw [hlink]; exact hcluster, by rw [hvisible, hsight], ?_⟩
    · simp [hgroup]
    · exact hchange rfl group cluster hgroup hcluster hserved
  · refine ⟨group, cluster, ?_, hcluster, hsight, hserved⟩
    simp [hplace, hgroup]

/-- Giving a search up does no harm where the page cancels it. -/
theorem Serves.giveUp (h : board.Serves cancels place)
    (hcancels : place = id → ∀ cluster, board.cluster? id = some cluster → cancels cluster.url) :
    (board.giveUp id).Serves cancels place := by
  refine h.modifyGroup (fun group => ?_) (fun group => ?_) ?_
  · split <;> rfl
  · split <;> rfl
  · intro hplace group cluster hgroup hcluster _
    refine .inr (hcancels hplace cluster ?_)
    unfold cluster?
    rw [hgroup]
    exact hcluster

theorem Serves.begin? (h : board.Serves cancels place) (hbegin : board.begin? id = some begun) :
    begun.Serves cancels place := by
  rw [eq_of_begin?_eq_some hbegin]
  exact h.modifyGroup (fun _ => rfl) (fun _ => rfl)
    fun _ _ _ _ _ _ => .inl fun hnone => nomatch hnone

theorem Serves.setTitle (h : board.Serves cancels place) (title : String) :
    (board.setTitle id title).Serves cancels place := by
  obtain ⟨group, cluster, hgroup, hcluster, hsight, hserved⟩ := h
  obtain ⟨next, hnext, hsame⟩ := (board.sameOutline_setTitle id title).link hcluster
  refine ⟨group, next, by simp [hgroup], hnext, hsight, ?_⟩
  rw [(Cluster.eq_of_untitled hsame).1]
  exact hserved

theorem Serves.resolved (h : board.Serves cancels place) (title : String) :
    ((board.setTitle id title).markResolved id).Serves cancels place :=
  (h.setTitle title).modifyGroup (fun _ => rfl) (fun _ => rfl)
    fun _ _ _ _ _ _ => .inl fun hnone => nomatch hnone

/-- A group in sight is served once a search for it is under way or has ended well. -/
theorem serves_of_resolution {group : Group} (hsound : board.Sound)
    (hgroup : board.groups[id]? = some group) (hsight : board.isVisible id)
    (hsearch : group.resolution ≠ .unresolved) : board.Serves cancels id := by
  obtain ⟨cluster, hcluster, -⟩ := hsound.exists_cluster hgroup
  obtain ⟨shown, hshown, hvisible⟩ := isVisible_iff.mp hsight
  rw [hgroup, Option.some.injEq] at hshown
  exact ⟨group, cluster, hgroup, hcluster, hshown ▸ hvisible, .inl hsearch⟩

/-! ## Other changes -/

/-- Clusters stay as they are, groups keep theirs and how far their searches have
come, and no search for a new group has begun. -/
structure SameSearches (before after : Board) : Prop where
  link : ∀ (place : LinkId) (cluster : Cluster), before.links[place]? = some cluster →
    after.links[place]? = some cluster
  group : ∀ (id : GroupId) (group : Group), before.groups[id]? = some group →
    ∃ next, after.groups[id]? = some next ∧
      next.link = group.link ∧ next.resolution = group.resolution
  fresh : ∀ (id : GroupId) (group : Group), after.groups[id]? = some group →
    before.groups[id]? = none → group.resolution = .unresolved

theorem SameSearches.refl (board : Board) : SameSearches board board where
  link _ _ h := h
  group _ group h := ⟨group, h, rfl, rfl⟩
  fresh _ _ h hnone := by rw [h] at hnone; cases hnone

theorem SameSearches.trans {a b c : Board} (h : SameSearches a b) (h' : SameSearches b c) :
    SameSearches a c where
  link place cluster hcluster := h'.link place cluster (h.link place cluster hcluster)
  group id group hgroup := by
    obtain ⟨mid, hmid, hlink, hresolution⟩ := h.group id group hgroup
    obtain ⟨next, hnext, hnextLink, hnextResolution⟩ := h'.group id mid hmid
    exact ⟨next, hnext, hnextLink.trans hlink, hnextResolution.trans hresolution⟩
  fresh id group hgroup hnone := by
    -- A group new in the end was made on the first way or on the second.
    cases hmid : b.groups[id]? with
    | none => exact h'.fresh id group hgroup hmid
    | some mid =>
      obtain ⟨next, hnext, -, hresolution⟩ := h'.group id mid hmid
      rw [hgroup, Option.some.injEq] at hnext
      rw [hnext, hresolution]
      exact h.fresh id mid hmid hnone

theorem SameHidden.sameSearches (h : SameHidden before after) : SameSearches before after where
  link place cluster hcluster := by rw [h.links, hcluster]
  group id group hgroup := by
    obtain ⟨next, hnext, heq⟩ := h.group hgroup
    obtain ⟨-, hlink, hresolution, -⟩ := Group.eq_of_hidden heq
    exact ⟨next, hnext, hlink, hresolution⟩
  fresh id group hgroup hnone := by
    have hlength : after.groups.length = before.groups.length := by
      simpa using congrArg List.length h.groups
    have hlt := (List.getElem?_eq_some_iff.mp hgroup).1
    have hge := List.getElem?_eq_none_iff.mp hnone
    omega

theorem sameSearches_addLinks (board : Board) (clusters : List Cluster) :
    SameSearches board (board.addLinks clusters) where
  link place cluster hcluster := by
    have hlt : place < board.links.length := (List.getElem?_eq_some_iff.mp hcluster).1
    rw [addLinks, List.getElem?_append_left hlt, hcluster]
  group _ group hgroup := ⟨group, hgroup, rfl, rfl⟩
  fresh _ _ hgroup hnone := by
    have hsame : board.groups[_]? = some _ := hgroup
    rw [hsame] at hnone
    cases hnone

theorem sameSearches_setItems (board : Board) (id : GroupId) (items : List Article) :
    SameSearches board (board.setItems id items) where
  link _ _ hcluster := hcluster
  group place group hgroup := by
    rw [groups_setItems, hgroup]
    split <;> exact ⟨_, rfl, rfl, rfl⟩
  fresh place group hgroup hnone := by
    simp [hnone] at hgroup

theorem GroupFor.sameSearches {next : Board} {link : LinkId}
    (h : GroupFor board link id next) : SameSearches board next where
  link place cluster hcluster := by rw [h.links, hcluster]
  group place group hgroup := by
    obtain ⟨kept, hkept, heq⟩ := h.group_of hgroup
    obtain ⟨-, hlink, hresolution, -⟩ := Group.eq_of_hidden heq
    exact ⟨kept, hkept, hlink, hresolution⟩
  fresh place group hgroup hnone := by
    have hplace : (next.groups.map Group.hidden)[place]? = some group.hidden := by simp [hgroup]
    have hge : (board.groups.map Group.hidden).length ≤ place := by
      simpa using List.getElem?_eq_none_iff.mp hnone
    rcases h.groups with heq | ⟨seq, heq⟩
    · rw [heq, List.getElem?_eq_none_iff.mpr hge] at hplace
      cases hplace
    · rw [heq, List.map_append, List.getElem?_append_right hge] at hplace
      have hnew : group.hidden = (Group.new seq link).hidden :=
        List.mem_singleton.mp (List.mem_of_getElem? hplace)
      obtain ⟨-, -, hresolution, -⟩ := Group.eq_of_hidden hnew
      exact hresolution

theorem Owned.of_sameSearches (h : before.Owned jobs) (hsame : SameSearches before after) :
    after.Owned jobs := by
  intro id group hgroup hsearch
  cases hold : before.groups[id]? with
  | none =>
    rw [hsame.fresh id group hgroup hold] at hsearch
    cases hsearch
  | some old =>
    obtain ⟨next, hnext, -, hresolution⟩ := hsame.group id old hold
    rw [hgroup, Option.some.injEq] at hnext
    exact h id old hold (by rw [← hresolution, ← hnext, hsearch])

theorem Titled.of_sameSearches (h : before.Titled) (hsound : before.Sound)
    (hsame : SameSearches before after) : after.Titled := by
  intro id group cluster hgroup hfound hcluster
  cases hold : before.groups[id]? with
  | none =>
    rw [hsame.fresh id group hgroup hold] at hfound
    cases hfound
  | some old =>
    obtain ⟨next, hnext, hlink, hresolution⟩ := hsame.group id old hold
    rw [hgroup, Option.some.injEq] at hnext
    subst hnext
    obtain ⟨known, hknown, -⟩ := hsound.exists_cluster hold
    have hkept := hsame.link old.link known hknown
    rw [← hlink, hcluster, Option.some.injEq] at hkept
    rw [hkept]
    exact h id old known hold (by rw [← hresolution, hfound]) hknown

end LinkDigest.Board
