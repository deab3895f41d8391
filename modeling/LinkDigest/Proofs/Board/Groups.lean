import LinkDigest.Proofs.Board.Tables

/-!
# The group for a cluster

A board whose entries all point somewhere stays one, whatever is done to it.
On such a board every cluster has a group when it is asked for: the one made for
it before, or a new one.
-/

namespace LinkDigest.Board

/-! ## What stays in its place -/

/-- Groups keep their places, numbers and clusters, and clusters all but their
titles. There may be more of both. -/
structure Extends (before after : Board) : Prop where
  group : ∀ (id : GroupId) (group : Group), before.groups[id]? = some group →
    ∃ next, after.groups[id]? = some next ∧ next.seq = group.seq ∧ next.link = group.link
  link : ∀ (place : LinkId) (cluster : Cluster), before.links[place]? = some cluster →
    ∃ next, after.links[place]? = some next ∧ next.untitled = cluster.untitled

/-- Groups keep their articles as well. -/
structure Keeps (before after : Board) : Prop extends Extends before after where
  items : ∀ (id : GroupId) (group next : Group), before.groups[id]? = some group →
    after.groups[id]? = some next → next.items = group.items

theorem Keeps.of_groups {before after : Board}
    (hgroup : ∀ (id : GroupId) (group : Group), before.groups[id]? = some group →
      ∃ next, after.groups[id]? = some next ∧
        next.seq = group.seq ∧ next.link = group.link ∧ next.items = group.items)
    (hlink : ∀ (place : LinkId) (cluster : Cluster), before.links[place]? = some cluster →
      ∃ next, after.links[place]? = some next ∧ next.untitled = cluster.untitled) :
    Keeps before after where
  group id group h := by
    obtain ⟨next, hnext, hseq, hlink, -⟩ := hgroup id group h
    exact ⟨next, hnext, hseq, hlink⟩
  link := hlink
  items id group next h hnext := by
    obtain ⟨found, hfound, -, -, hitems⟩ := hgroup id group h
    rw [hnext, Option.some.injEq] at hfound
    exact hfound ▸ hitems

theorem SameOutline.keeps {before after : Board} (h : SameOutline before after) :
    Keeps before after := by
  refine .of_groups ?_ fun _ _ => h.link
  intro id group hgroup
  obtain ⟨next, hnext, heq⟩ := h.group hgroup
  obtain ⟨hseq, hlink, -, hitems⟩ := Group.eq_of_unsearched heq
  exact ⟨next, hnext, hseq, hlink, hitems⟩

theorem SameHidden.keeps {before after : Board} (h : SameHidden before after) :
    Keeps before after := by
  refine .of_groups ?_ fun place cluster hcluster => ⟨cluster, by rw [h.links, hcluster], rfl⟩
  intro id group hgroup
  obtain ⟨next, hnext, heq⟩ := h.group hgroup
  obtain ⟨hseq, hlink, -, hitems⟩ := Group.eq_of_hidden heq
  exact ⟨next, hnext, hseq, hlink, hitems⟩

theorem Extends.length_le {before after : Board} (h : Extends before after) :
    before.groups.length ≤ after.groups.length := by
  rcases Nat.lt_or_ge after.groups.length before.groups.length with hplace | hle
  · obtain ⟨next, hnext, -⟩ := h.group _ _ (List.getElem?_eq_getElem hplace)
    simp at hnext
  · exact hle

/-! ## Boards whose entries all point somewhere -/

/-- The group of a known entry is that of its link. -/
def Knows (board : Board) (entry : String × GroupId) : Prop :=
  ∃ group cluster, board.groups[entry.2]? = some group ∧
    board.links[group.link]? = some cluster ∧ cluster.url = entry.1

/-- Groups have clusters, known groups are those of their links, and the groups
shown exist. -/
structure Sound (board : Board) : Prop where
  link_lt : ∀ link ∈ board.groups.map Group.link, link < board.links.length
  knows : ∀ entry ∈ board.known, board.Knows entry
  visible_lt : ∀ id ∈ board.visible, id < board.groups.length

theorem Sound.empty : Sound empty where
  link_lt link h := by simp [Board.empty] at h
  knows entry h := by simp [Board.empty] at h
  visible_lt id h := by simp [Board.empty] at h

/-- Every group has a cluster. -/
theorem Sound.exists_cluster {board : Board} (h : board.Sound) {id : GroupId} {group : Group}
    (hgroup : board.groups[id]? = some group) :
    ∃ cluster, board.links[group.link]? = some cluster ∧ board.cluster? id = some cluster := by
  have hlt := h.link_lt group.link (List.mem_map_of_mem (List.mem_of_getElem? hgroup))
  refine ⟨board.links[group.link], List.getElem?_eq_getElem hlt, ?_⟩
  simp [cluster?, hgroup, hlt]

theorem Extends.knows {before after : Board} (h : Extends before after) {entry : String × GroupId}
    (hknows : before.Knows entry) : after.Knows entry := by
  obtain ⟨group, cluster, hgroup, hcluster, hurl⟩ := hknows
  obtain ⟨next, hnext, -, hlink⟩ := h.group _ _ hgroup
  obtain ⟨titled, htitled, hsame⟩ := h.link _ _ hcluster
  exact ⟨next, titled, hnext, hlink ▸ htitled, (Cluster.eq_of_untitled hsame).1.trans hurl⟩

/-- What was sound stays so if all that is new points somewhere. -/
theorem Sound.extend {before after : Board} (h : before.Sound) (hext : Extends before after)
    (hlink : ∀ link ∈ after.groups.map Group.link, link < after.links.length)
    (hknown : ∀ entry ∈ after.known, entry ∈ before.known ∨ after.Knows entry)
    (hvisible : ∀ id ∈ after.visible, id ∈ before.visible ∨ id < after.groups.length) :
    after.Sound where
  link_lt := hlink
  knows entry hentry := by
    rcases hknown entry hentry with hold | hnew
    · exact hext.knows (h.knows entry hold)
    · exact hnew
  visible_lt id hid := by
    rcases hvisible id hid with hold | hnew
    · exact Nat.lt_of_lt_of_le (h.visible_lt id hold) hext.length_le
    · exact hnew

/-- Groups that are the same but for what has nothing to do with their links have
the same links. -/
theorem map_link_eq {change : Group → Group} {groups others : List Group}
    (h : groups.map change = others.map change)
    (hlink : ∀ group, (change group).link = group.link) :
    groups.map Group.link = others.map Group.link := by
  have hmap : ∀ groups : List Group,
      (groups.map change).map Group.link = groups.map Group.link := by
    intro groups
    rw [List.map_map]
    exact List.map_congr_left fun group _ => hlink group
  rw [← hmap, h, hmap]

theorem SameOutline.sound {before after : Board} (hsame : SameOutline before after)
    (h : before.Sound) : after.Sound := by
  have hlength : after.links.length = before.links.length := by
    simpa using congrArg List.length hsame.links
  have hgroups : after.groups.map Group.link = before.groups.map Group.link :=
    map_link_eq hsame.groups fun _ => rfl
  refine h.extend hsame.keeps.toExtends ?_ ?_ ?_
  · rw [hgroups, hlength]
    exact h.link_lt
  · intro entry hentry
    exact .inl (hsame.known ▸ hentry)
  · intro id hid
    exact .inl (hsame.visible ▸ hid)

/-- Showing and hiding keeps a board sound if all that it lists was there. -/
theorem SameHidden.sound {before after : Board} (hsame : SameHidden before after)
    (h : before.Sound) (hknown : ∀ entry ∈ after.known, entry ∈ before.known)
    (hvisible : ∀ id ∈ after.visible, id ∈ before.visible ∨ id < before.groups.length) :
    after.Sound := by
  have hgroups : after.groups.map Group.link = before.groups.map Group.link :=
    map_link_eq hsame.groups fun _ => rfl
  refine h.extend hsame.keeps.toExtends ?_ (fun entry hentry => .inl (hknown entry hentry)) ?_
  · rw [hgroups, hsame.links]
    exact h.link_lt
  · intro id hid
    rcases hvisible id hid with hold | hlt
    · exact .inl hold
    · exact .inr (Nat.lt_of_lt_of_le hlt hsame.keeps.toExtends.length_le)

theorem sound_replaceVisible {board : Board} (h : board.Sound) {ids : List GroupId}
    (hids : ∀ id ∈ ids, id < board.groups.length) : (board.replaceVisible ids).Sound := by
  refine (board.sameHidden_replaceVisible ids).sound h ?_ (fun id hid => .inr (hids id hid))
  intro entry hentry
  simpa using hentry

theorem sound_retain {board : Board} (h : board.Sound) (urls : List String) :
    (board.retain urls).Sound := by
  refine (board.sameHidden_retain urls).sound h ?_ ?_
  · intro entry hentry
    exact (List.mem_filter.mp hentry).1
  · intro id hid
    exact .inl (by simpa using hid)

/-! ## Other articles -/

theorem extends_setItems (board : Board) (id : GroupId) (items : List Article) :
    Extends board (board.setItems id items) := by
  refine ⟨?_, fun _ cluster hcluster => ⟨cluster, hcluster, rfl⟩⟩
  intro place group hgroup
  rw [groups_setItems, hgroup]
  split <;> exact ⟨_, rfl, rfl, rfl⟩

theorem sound_setItems {board : Board} (h : board.Sound) (id : GroupId) (items : List Article) :
    (board.setItems id items).Sound := by
  have hlinks : (board.setItems id items).groups.map Group.link = board.groups.map Group.link :=
    map_modify_of_eq Group.link (fun group => { group with items := items }) (fun _ => rfl) ..
  refine h.extend (board.extends_setItems id items) ?_ (fun _ hentry => .inl hentry)
    (fun _ hid => .inl hid)
  rw [hlinks]
  exact h.link_lt

/-! ## More clusters -/

theorem keeps_addLinks (board : Board) (clusters : List Cluster) :
    Keeps board (board.addLinks clusters) := by
  refine .of_groups (fun _ group hgroup => ⟨group, hgroup, rfl, rfl, rfl⟩) ?_
  intro place cluster hcluster
  have hlt : place < board.links.length := (List.getElem?_eq_some_iff.mp hcluster).1
  exact ⟨cluster, by rw [addLinks, List.getElem?_append_left hlt, hcluster], rfl⟩

theorem sound_addLinks {board : Board} (h : board.Sound) (clusters : List Cluster) :
    (board.addLinks clusters).Sound := by
  refine h.extend (board.keeps_addLinks clusters).toExtends ?_ (fun _ hentry => .inl hentry)
    (fun _ hid => .inl hid)
  intro link hlink
  simp only [addLinks, List.length_append]
  exact Nat.lt_of_lt_of_le (h.link_lt link hlink) (Nat.le_add_right ..)

/-! ## One group more -/

theorem extends_addGroup (board : Board) (group : Group) :
    Extends board (board.addGroup group) where
  group id old hold := by
    have hlt : id < board.groups.length := (List.getElem?_eq_some_iff.mp hold).1
    exact ⟨old, by rw [addGroup, List.getElem?_append_left hlt, hold], rfl, rfl⟩
  link _ cluster hcluster := ⟨cluster, hcluster, rfl⟩

theorem sound_addGroup {board : Board} (h : board.Sound) {seq : Nat} {link : LinkId}
    (hlink : link < board.links.length) : (board.addGroup (Group.new seq link)).Sound := by
  refine h.extend (board.extends_addGroup _) ?_ (fun _ hentry => .inl hentry)
    (fun _ hid => .inl hid)
  intro other hother
  rw [addGroup, List.map_append, List.mem_append] at hother
  rcases hother with hold | hnew
  · exact h.link_lt other hold
  · rw [List.mem_singleton.mp hnew]
    exact hlink

/-! ## The group for a cluster -/

/-- What asking for a group leads to: no group changes but in being shown, and
there may be a new one for the cluster at the end. -/
structure GroupFor (board : Board) (link : LinkId) (id : GroupId) (next : Board) : Prop where
  links : next.links = board.links
  visible : next.visible = board.visible
  groups : next.groups.map Group.hidden = board.groups.map Group.hidden ∨
    ∃ seq, next.groups.map Group.hidden =
      (board.groups ++ [Group.new seq link]).map Group.hidden
  knows : ∀ entry ∈ next.known, entry ∈ board.known ∨ next.Knows entry
  group : ∃ group, next.groups[id]? = some group ∧ group.link = link

theorem mem_of_lookup {known : List (String × GroupId)} {url : String} {id : GroupId}
    (h : known.lookup url = some id) : (url, id) ∈ known := by
  obtain ⟨front, back, rfl, -⟩ := List.lookup_eq_some_iff.mp h
  simp

/-- A new group is a group for its cluster. -/
theorem groupFor_newGroup {board : Board} {link : LinkId} {cluster : Cluster}
    (hcluster : board.links[link]? = some cluster) (seq : Nat) :
    GroupFor board link (board.newGroup seq link cluster.url).1
      (board.newGroup seq link cluster.url).2 := by
  have hgroup : (board.newGroup seq link cluster.url).2.groups[board.nextGroup]? =
      some (Group.new seq link) := by
    simp [newGroup, know, addGroup, nextGroup]
  refine ⟨rfl, rfl, .inr ⟨seq, ?_⟩, ?_, _, hgroup, rfl⟩
  · rfl
  · intro entry hentry
    rcases List.mem_cons.mp hentry with rfl | hold
    · exact .inr ⟨Group.new seq link, cluster, hgroup, hcluster, rfl⟩
    · exact .inl (List.mem_filter.mp hold).1

theorem GroupFor.of_sameHidden {board before next : Board} {link : LinkId} {id : GroupId}
    (h : GroupFor before link id next) (hsame : SameHidden board before)
    (hvisible : before.visible = board.visible) (hknown : before.known = board.known) :
    GroupFor board link id next where
  links := h.links.trans hsame.links
  visible := h.visible.trans hvisible
  groups := by simpa only [List.map_append, hsame.groups] using h.groups
  knows := hknown ▸ h.knows
  group := h.group

/-- The ways a cluster gets its group: it has one, or there is none for its link, or
that is for another cluster. -/
inductive Gives (board : Board) (link : LinkId) (url : String) : GroupId → Board → Prop where
  | known (id : GroupId) (group : Group) (hfind : board.find? url = some id)
      (hgroup : board.groups[id]? = some group) (hlink : group.link = link) :
      Gives board link url id board
  | fresh (hfind : board.find? url = none) :
      Gives board link url board.nextGroup
        ({ board with issued := board.issued + 1 }.newGroup (board.issued + 1) link url).2
  | renewed (known : GroupId) (group : Group) (hfind : board.find? url = some known)
      (hgroup : board.groups[known]? = some group) (hlink : group.link ≠ link) :
      Gives board link url (board.setVisible known false).nextGroup
        ((board.setVisible known false).newGroup group.seq link url).2

/-- A group is given to a cluster of a sound board. -/
structure Given (board : Board) (link : LinkId) (id : GroupId) (next : Board) : Prop
    extends GroupFor board link id next where
  isSound : board.Sound
  gives : ∃ cluster, board.links[link]? = some cluster ∧ board.Gives link cluster.url id next

theorem Given.lt {board next : Board} {link : LinkId} {id : GroupId}
    (h : Given board link id next) : link < board.links.length := by
  obtain ⟨cluster, hcluster, -⟩ := h.gives
  exact (List.getElem?_eq_some_iff.mp hcluster).1

/-- A group after one has been given is the one given, or it is as before but for being
hidden. -/
theorem Gives.of_groups {board next : Board} {link : LinkId} {url : String} {id place : GroupId}
    {group : Group} (h : Gives board link url id next)
    (hgroup : next.groups[place]? = some group) :
    place = id ∨ ∃ old, board.groups[place]? = some old ∧ (group = old ∨ group = old.hidden) := by
  have hnew : ∀ {groups : List Group} {made : Group},
      (groups ++ [made])[place]? = some group → place = groups.length ∨
        groups[place]? = some group := by
    intro groups made hplace
    rcases Nat.lt_trichotomy place groups.length with hlt | heq | hgt
    · rw [List.getElem?_append_left hlt] at hplace
      exact .inr hplace
    · exact .inl heq
    · rw [List.getElem?_eq_none (by simp; omega)] at hplace
      cases hplace
  cases h with
  | known => exact .inr ⟨group, hgroup, .inl rfl⟩
  | fresh => exact (hnew hgroup).imp_right fun hold => ⟨group, hold, .inl rfl⟩
  | renewed known =>
    refine (hnew hgroup).imp_right fun hold => ?_
    rw [groups_setVisible] at hold
    split at hold
    · obtain ⟨old, hplace, rfl⟩ := Option.map_eq_some_iff.mp hold
      exact ⟨old, hplace, .inr rfl⟩
    · exact ⟨group, hold, .inl rfl⟩

/-- Every cluster has a group when it is asked for. -/
theorem Sound.groupFor? {board : Board} (h : board.Sound) {link : LinkId} {cluster : Cluster}
    (hcluster : board.links[link]? = some cluster) :
    ∃ id next, board.groupFor? link = some (id, next) ∧ Given board link id next := by
  unfold Board.groupFor?
  rw [hcluster, Option.map_some]
  cases hfind : board.find? cluster.url with
  | none =>
    have hplace : ({ board with issued := board.issued + 1 } : Board).links[link]? =
      some cluster := hcluster
    have hnew := groupFor_newGroup hplace (board.issued + 1)
    exact ⟨_, _, rfl, ⟨hnew.links, hnew.visible, hnew.groups, hnew.knows, hnew.group⟩, h, cluster,
      hcluster, .fresh hfind⟩
  | some known =>
    obtain ⟨group, -, hgroup, -⟩ := h.knows (cluster.url, known) (mem_of_lookup hfind)
    simp only [hgroup]
    by_cases hlink : group.link = link
    · rw [if_pos hlink]
      exact ⟨known, board, rfl, ⟨rfl, rfl, .inl rfl, fun _ => .inl, group, hgroup, hlink⟩, h,
        cluster, hcluster, .known known group hfind hgroup hlink⟩
    · -- The group known is that of an earlier scan: a new one takes its number over.
      rw [if_neg hlink]
      have hplace : (board.setVisible known false).links[link]? = some cluster := hcluster
      have hnew := (groupFor_newGroup hplace group.seq).of_sameHidden
        (board.sameHidden_setVisible known false) rfl rfl
      exact ⟨_, _, rfl, hnew, h, cluster, hcluster, .renewed known group hfind hgroup hlink⟩

theorem GroupFor.group_of {board next : Board} {link : LinkId} {id : GroupId}
    (h : GroupFor board link id next) {place : GroupId} {group : Group}
    (hgroup : board.groups[place]? = some group) :
    ∃ kept, next.groups[place]? = some kept ∧ kept.hidden = group.hidden := by
  -- New groups come after the old ones, so these keep their places.
  have hold : (board.groups.map Group.hidden)[place]? = some group.hidden := by
    simp [hgroup]
  have hplace : (next.groups.map Group.hidden)[place]? = some group.hidden := by
    have hlt := (List.getElem?_eq_some_iff.mp hold).1
    rcases h.groups with heq | ⟨seq, heq⟩
    · rw [heq, hold]
    · rw [heq, List.map_append, List.getElem?_append_left hlt, hold]
  rw [List.getElem?_map] at hplace
  exact Option.map_eq_some_iff.mp hplace

theorem GroupFor.keeps {board next : Board} {link : LinkId} {id : GroupId}
    (h : GroupFor board link id next) : Keeps board next := by
  refine .of_groups ?_ fun place cluster hcluster => ⟨cluster, by rw [h.links, hcluster], rfl⟩
  intro place group hgroup
  obtain ⟨kept, hkept, heq⟩ := h.group_of hgroup
  obtain ⟨hseq, hlink, -, hitems⟩ := Group.eq_of_hidden heq
  exact ⟨kept, hkept, hseq, hlink, hitems⟩

theorem GroupFor.sound {board next : Board} {link : LinkId} {id : GroupId}
    (h : GroupFor board link id next) (hsound : board.Sound) (hlink : link < board.links.length) :
    next.Sound := by
  refine hsound.extend h.keeps.toExtends ?_ h.knows fun id hid => .inl (h.visible ▸ hid)
  intro other hother
  rw [h.links]
  rcases h.groups with heq | ⟨seq, heq⟩
  · rw [map_link_eq heq fun _ => rfl] at hother
    exact hsound.link_lt other hother
  · rw [map_link_eq heq fun _ => rfl, List.map_append, List.mem_append] at hother
    rcases hother with hold | hnew
    · exact hsound.link_lt other hold
    · rw [List.mem_singleton.mp hnew]
      exact hlink

end LinkDigest.Board
