import LinkDigest.Proofs.Board.Groups
import Mathlib.Data.List.Basic

/-!
# What is seen of a board

A group is seen with its number, link and articles for as long as it is there.
Only its title and whether that has been found may change.
-/

namespace LinkDigest

/-- What is seen of a group but for its title: its number, its link, and how many
articles cite the link and are shown. -/
def GroupView.key (view : GroupView) : Nat × String × Nat × Nat :=
  (view.seq, view.url, view.referenceCount, view.shownReferences)

/-- A group with its cluster as it is seen. -/
def Group.view (group : Group) (cluster : Cluster) : GroupView where
  seq := group.seq
  url := cluster.url
  title := cluster.displayName
  isResolved := group.resolution = .resolved
  referenceCount := cluster.referenceCount
  shownReferences := group.items.length
  average := cluster.average

namespace Board

/-- The clusters in some places are the same up to titles if all clusters are. -/
theorem untitled_clusters {before after : Board}
    (h : after.links.map Cluster.untitled = before.links.map Cluster.untitled)
    (found : List LinkId) :
    (after.clusters found).map Cluster.untitled =
      (before.clusters found).map Cluster.untitled := by
  unfold Board.clusters
  rw [List.map_filterMap, List.map_filterMap]
  apply List.filterMap_congr
  intro link _
  rw [← List.getElem?_map, ← List.getElem?_map, h]

theorem view?_eq {board : Board} {id : GroupId} {group : Group} {cluster : Cluster}
    (hgroup : board.groups[id]? = some group) (hcluster : board.links[group.link]? = some cluster) :
    board.view? id = some (group.view cluster) := by
  unfold view?
  rw [hgroup]
  show board.links[group.link]?.bind _ = _
  rw [hcluster]
  rfl

theorem exists_of_view? {board : Board} {id : GroupId} {view : GroupView}
    (h : board.view? id = some view) :
    ∃ group cluster, board.groups[id]? = some group ∧ board.links[group.link]? = some cluster ∧
      view = group.view cluster := by
  cases hgroup : board.groups[id]? with
  | none => simp [view?, hgroup] at h
  | some group =>
    cases hcluster : board.links[group.link]? with
    | none => simp [view?, hgroup, hcluster] at h
    | some cluster =>
      rw [view?_eq hgroup hcluster, Option.some.injEq] at h
      exact ⟨group, cluster, rfl, hcluster, h.symm⟩

/-- A group that has been given a title is seen with it. -/
theorem view?_named {board : Board} {id : GroupId} {group : Group} {cluster : Cluster}
    (hgroup : board.groups[id]? = some group)
    (hcluster : board.links[group.link]? = some cluster) (title : String) :
    ((board.setTitle id title).markResolved id).view? id =
      some (({ group with resolution := .resolved } : Group).view (cluster.withTitle title)) := by
  refine view?_eq ?_ ?_
  · simp [hgroup]
  · simp [links_setTitle board id title hgroup, hcluster]

theorem itemViews_eq {board : Board} {id : GroupId} {group : Group}
    (hgroup : board.groups[id]? = some group) :
    board.itemViews id = group.items.map ItemView.ofArticle := by
  unfold itemViews
  rw [hgroup]

/-- On a sound board every group is seen with its cluster. -/
theorem Sound.exists_view {board : Board} (h : board.Sound) {id : GroupId}
    (hid : id < board.groups.length) :
    ∃ group cluster, board.groups[id]? = some group ∧ board.links[group.link]? = some cluster ∧
      board.view? id = some (group.view cluster) := by
  have hgroup := List.getElem?_eq_getElem hid
  obtain ⟨cluster, hcluster, -⟩ := h.exists_cluster hgroup
  exact ⟨_, cluster, hgroup, hcluster, view?_eq hgroup hcluster⟩

/-- Each group shown is seen. -/
theorem Sound.visibleViews {board : Board} (h : board.Sound) :
    board.visibleViews.map some = board.visible.map board.view? := by
  have hviews : ∀ ids : List GroupId, (∀ id ∈ ids, (board.view? id).isSome) →
      (ids.filterMap board.view?).map some = ids.map board.view? := by
    intro ids hids
    induction ids with
    | nil => rfl
    | cons id rest ih =>
      obtain ⟨view, hview⟩ := Option.isSome_iff_exists.mp (hids id List.mem_cons_self)
      rw [List.filterMap_cons_some hview, List.map_cons, List.map_cons, hview,
        ih fun other hother => hids other (List.mem_cons_of_mem _ hother)]
  refine hviews board.visible fun id hid => ?_
  obtain ⟨_, _, -, -, hview⟩ := h.exists_view (h.visible_lt id hid)
  rw [hview]
  rfl

theorem Keeps.key {before after : Board} (h : Keeps before after) {id : GroupId} {group : Group}
    {cluster : Cluster} (hgroup : before.groups[id]? = some group)
    (hcluster : before.links[group.link]? = some cluster) :
    (after.view? id).map GroupView.key = some (group.view cluster).key := by
  obtain ⟨next, hnext, hseq, hlink⟩ := h.group id group hgroup
  obtain ⟨titled, htitled, hsame⟩ := h.link group.link cluster hcluster
  have hitems := h.items id group next hgroup hnext
  obtain ⟨hurl, harticles⟩ := Cluster.eq_of_untitled hsame
  rw [view?_eq hnext (hlink ▸ htitled)]
  simp [GroupView.key, Group.view, Cluster.referenceCount, hseq, hurl, harticles, hitems]

/-- A group that was there before is seen as it was, up to its title. -/
theorem Keeps.key_of_view? {before after : Board} (h : Keeps before after) (hsound : before.Sound)
    {id : GroupId} (hid : id < before.groups.length) {view : GroupView}
    (hview : after.view? id = some view) :
    ∃ old, before.view? id = some old ∧ old.key = view.key := by
  obtain ⟨group, cluster, hgroup, hcluster, hold⟩ := hsound.exists_view hid
  have hkey := h.key hgroup hcluster
  rw [hview, Option.map_some, Option.some.injEq] at hkey
  exact ⟨_, hold, hkey.symm⟩

/-- The groups shown are seen as before, up to their titles, if they are the same. -/
theorem Keeps.keys_visibleViews {before after : Board} (h : Keeps before after)
    (hsound : before.Sound) (hvisible : after.visible = before.visible) :
    after.visibleViews.map GroupView.key = before.visibleViews.map GroupView.key := by
  unfold visibleViews
  rw [hvisible, List.map_filterMap, List.map_filterMap]
  apply List.filterMap_congr
  intro id hid
  obtain ⟨group, cluster, hgroup, hcluster, hview⟩ := hsound.exists_view (hsound.visible_lt id hid)
  rw [h.key hgroup hcluster, hview]
  rfl

end Board

end LinkDigest
