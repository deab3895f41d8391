import LinkDigest.Board.Basic

/-!
# The tables of the board

What the operations on single groups do to the tables, place by place. Two
kinds of them matter. Those of the search for titles change how far a search
has come and which title a cluster has, but never who is shown or with what.
Those that show and hide groups change nothing else.
-/

namespace LinkDigest

/-- The cluster but for its title. -/
def Cluster.untitled (cluster : Cluster) : Cluster := { cluster with title := none }

/-- The group but for how far its search has come. -/
def Group.unsearched (group : Group) : Group := { group with resolution := .unresolved }

/-- The group but for whether it is shown. -/
def Group.hidden (group : Group) : Group := { group with isVisible := false }

theorem Cluster.eq_of_untitled {a b : Cluster} (h : a.untitled = b.untitled) :
    a.url = b.url ∧ a.articles = b.articles := by
  cases a
  cases b
  simp_all [untitled]

theorem Group.eq_of_unsearched {a b : Group} (h : a.unsearched = b.unsearched) :
    a.seq = b.seq ∧ a.link = b.link ∧ a.isVisible = b.isVisible ∧ a.items = b.items := by
  cases a
  cases b
  simp_all [unsearched]

theorem Group.eq_of_hidden {a b : Group} (h : a.hidden = b.hidden) :
    a.seq = b.seq ∧ a.link = b.link ∧ a.resolution = b.resolution ∧ a.items = b.items := by
  cases a
  cases b
  simp_all [hidden]

namespace Board

/-- A cluster that is given the title it has stays as it is. -/
theorem links_setTitle_self {board : Board} {id : GroupId} {cluster : Cluster} {title : String}
    (hcluster : board.cluster? id = some cluster) (htitle : cluster.title = some title) :
    (board.setTitle id title).links = board.links := by
  obtain ⟨group, hgroup, hlink⟩ := Option.bind_eq_some_iff.mp hcluster
  apply List.ext_getElem?
  intro place
  rw [links_setTitle board id title hgroup]
  split
  · rename_i hplace
    rw [← hplace, hlink, Option.map_some, Cluster.withTitle, ← htitle]
  · rfl

/-! ## What searches leave as it is -/

/-- Only titles and searches differ. -/
structure SameOutline (before after : Board) : Prop where
  links : after.links.map Cluster.untitled = before.links.map Cluster.untitled
  groups : after.groups.map Group.unsearched = before.groups.map Group.unsearched
  issued : after.issued = before.issued
  known : after.known = before.known
  visible : after.visible = before.visible

theorem SameOutline.refl (board : Board) : SameOutline board board := ⟨rfl, rfl, rfl, rfl, rfl⟩

theorem SameOutline.trans {a b c : Board} (h : SameOutline a b) (h' : SameOutline b c) :
    SameOutline a c :=
  ⟨h'.links.trans h.links, h'.groups.trans h.groups, h'.issued.trans h.issued,
    h'.known.trans h.known, h'.visible.trans h.visible⟩

theorem SameOutline.symm {a b : Board} (h : SameOutline a b) : SameOutline b a :=
  ⟨h.links.symm, h.groups.symm, h.issued.symm, h.known.symm, h.visible.symm⟩

theorem map_modify_of_eq {α β : Type} (f : α → β) (change : α → α) (h : ∀ x, f (change x) = f x)
    (xs : List α) (place : Nat) : (xs.modify place change).map f = xs.map f := by
  apply List.ext_getElem?
  intro i
  rw [List.getElem?_map, List.getElem?_map, List.getElem?_modify]
  by_cases hplace : place = i <;> cases xs[i]? <;> simp [hplace, h]

theorem sameOutline_modifyGroup (board : Board) (id : GroupId) {change : Group → Group}
    (h : ∀ group, (change group).unsearched = group.unsearched) :
    SameOutline board (board.modifyGroup id change) where
  links := rfl
  groups := map_modify_of_eq Group.unsearched change h board.groups id
  issued := rfl
  known := rfl
  visible := rfl

theorem sameOutline_markResolved (board : Board) (id : GroupId) :
    SameOutline board (board.markResolved id) :=
  board.sameOutline_modifyGroup id fun _ => rfl

theorem sameOutline_giveUp (board : Board) (id : GroupId) : SameOutline board (board.giveUp id) :=
  board.sameOutline_modifyGroup id fun group => by
    split <;> rfl

theorem sameOutline_begin? {board begun : Board} {id : GroupId} (h : board.begin? id = some begun) :
    SameOutline board begun := by
  unfold begin? at h
  split at h
  · cases h
  · cases h
    exact board.sameOutline_modifyGroup id fun _ => rfl

theorem sameOutline_setLinkTitle (board : Board) (link : LinkId) (title : String) :
    SameOutline board (board.setLinkTitle link title) :=
  ⟨map_modify_of_eq Cluster.untitled (fun cluster => cluster.withTitle title) (fun _ => rfl) ..,
    rfl, rfl, rfl, rfl⟩

theorem sameOutline_setTitle (board : Board) (id : GroupId) (title : String) :
    SameOutline board (board.setTitle id title) := by
  unfold setTitle
  split
  · exact board.sameOutline_setLinkTitle _ title
  · exact .refl board

theorem SameOutline.group {before after : Board} (h : SameOutline before after) {id : GroupId}
    {group : Group} (hgroup : before.groups[id]? = some group) :
    ∃ next, after.groups[id]? = some next ∧ next.unsearched = group.unsearched := by
  have hplace := congrArg (fun groups => groups[id]?) h.groups
  simp only [List.getElem?_map, hgroup, Option.map_some] at hplace
  exact Option.map_eq_some_iff.mp hplace

theorem SameOutline.link {before after : Board} (h : SameOutline before after) {place : LinkId}
    {cluster : Cluster} (hcluster : before.links[place]? = some cluster) :
    ∃ next, after.links[place]? = some next ∧ next.untitled = cluster.untitled := by
  have hplace := congrArg (fun links => links[place]?) h.links
  simp only [List.getElem?_map, hcluster, Option.map_some] at hplace
  exact Option.map_eq_some_iff.mp hplace

theorem SameOutline.cluster? {before after : Board} (h : SameOutline before after) {id : GroupId}
    {cluster : Cluster} (hcluster : before.cluster? id = some cluster) :
    ∃ next, after.cluster? id = some next ∧ next.untitled = cluster.untitled := by
  unfold Board.cluster? at hcluster
  obtain ⟨group, hgroup, hlink⟩ := Option.bind_eq_some_iff.mp hcluster
  obtain ⟨next, hnext, hsame⟩ := h.group hgroup
  obtain ⟨titled, htitled, huntitled⟩ := h.link hlink
  obtain ⟨-, hnextLink, -⟩ := Group.eq_of_unsearched hsame
  refine ⟨titled, ?_, huntitled⟩
  unfold Board.cluster?
  rw [hnext, Option.bind_some, hnextLink, htitled]

theorem isVisible_iff {board : Board} {id : GroupId} :
    board.isVisible id ↔ ∃ group, board.groups[id]? = some group ∧ group.isVisible := by
  rw [isVisible, Option.any_eq_true]

theorem SameOutline.isVisible {before after : Board} (h : SameOutline before after)
    {id : GroupId} (hvisible : before.isVisible id) : after.isVisible id := by
  obtain ⟨group, hgroup, hshown⟩ := isVisible_iff.mp hvisible
  obtain ⟨next, hnext, hsame⟩ := h.group hgroup
  obtain ⟨-, -, hnextShown, -⟩ := Group.eq_of_unsearched hsame
  exact isVisible_iff.mpr ⟨next, hnext, hnextShown.trans hshown⟩

/-! ## What showing and hiding leave as it is -/

/-- Only who is shown differs. -/
structure SameHidden (before after : Board) : Prop where
  links : after.links = before.links
  groups : after.groups.map Group.hidden = before.groups.map Group.hidden
  issued : after.issued = before.issued

theorem SameHidden.refl (board : Board) : SameHidden board board := ⟨rfl, rfl, rfl⟩

theorem SameHidden.trans {a b c : Board} (h : SameHidden a b) (h' : SameHidden b c) :
    SameHidden a c :=
  ⟨h'.links.trans h.links, h'.groups.trans h.groups, h'.issued.trans h.issued⟩

theorem sameHidden_setVisible (board : Board) (id : GroupId) (isVisible : Bool) :
    SameHidden board (board.setVisible id isVisible) :=
  ⟨rfl, map_modify_of_eq Group.hidden (fun group => { group with isVisible := isVisible })
    (fun _ => rfl) .., rfl⟩

theorem SameHidden.group {before after : Board} (h : SameHidden before after) {id : GroupId}
    {group : Group} (hgroup : before.groups[id]? = some group) :
    ∃ next, after.groups[id]? = some next ∧ next.hidden = group.hidden := by
  have hplace := congrArg (fun groups => groups[id]?) h.groups
  simp only [List.getElem?_map, hgroup, Option.map_some] at hplace
  exact Option.map_eq_some_iff.mp hplace

theorem sameHidden_setAllVisible (ids : List GroupId) (isVisible : Bool) (board : Board) :
    SameHidden board (board.setAllVisible ids isVisible) := by
  unfold setAllVisible
  induction ids generalizing board with
  | nil => exact .refl board
  | cons id ids ih => exact (board.sameHidden_setVisible id isVisible).trans (ih _)

theorem sameHidden_replaceVisible (board : Board) (ids : List GroupId) :
    SameHidden board (board.replaceVisible ids) := by
  have h := (board.sameHidden_setAllVisible board.visible false).trans
    (sameHidden_setAllVisible ids true _)
  exact ⟨h.links, h.groups, h.issued⟩

/-- Exactly the groups that are to be shown are, of those shown before and these. -/
@[simp] theorem groups_replaceVisible (board : Board) (ids : List GroupId) (place : GroupId) :
    (board.replaceVisible ids).groups[place]? =
      if place ∈ ids then board.groups[place]?.map fun group => { group with isVisible := true }
      else if place ∈ board.visible then board.groups[place]?.map Group.hidden
      else board.groups[place]? := by
  show (setAllVisible _ ids true).groups[place]? = _
  simp only [groups_setAllVisible]
  split
  · split
    · cases board.groups[place]? <;> rfl
    · rfl
  · rfl

theorem sameHidden_retain (board : Board) (urls : List String) :
    SameHidden board (board.retain urls) := by
  have h := board.sameHidden_setAllVisible
    ((board.known.filter fun entry => !urls.contains entry.1).map Prod.snd) false
  exact ⟨h.links, h.groups, h.issued⟩

end Board

end LinkDigest
