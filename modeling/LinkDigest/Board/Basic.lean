import LinkDigest.Board.Event

/-!
# The board of groups

Clusters as the reader sees them. A group is made for a cluster the first time
it is asked for and gets the next number; a later cluster of the same link gets
a group of its own that takes the number over. Of the groups known, some are
visible, in an order.

Clusters and groups are kept in tables and go by their place there.
-/

namespace LinkDigest

/-- How far the search for a title has come. -/
inductive Resolution where
  | unresolved
  | resolving
  | resolved
deriving DecidableEq, Repr

def Resolution.name : Resolution → String
  | .unresolved => "unresolved"
  | .resolving => "resolving"
  | .resolved => "resolved"

/-- The place of a cluster in its table. -/
abbrev LinkId := Nat

/-- The place of a group in its table. -/
abbrev GroupId := Nat

/-- A cluster as the reader sees it. -/
structure Group where
  seq : Nat
  link : LinkId
  isVisible : Bool
  resolution : Resolution
  /-- The articles shown with it. -/
  items : List Article
deriving DecidableEq, Repr

/-- A group of which nothing is shown yet. -/
def Group.new (seq : Nat) (link : LinkId) : Group := ⟨seq, link, false, .unresolved, []⟩

/-- The groups made so far. -/
structure Board where
  links : List Cluster
  groups : List Group
  /-- How many numbers have been given out. -/
  issued : Nat
  /-- The groups known, by link. -/
  known : List (String × GroupId)
  /-- The groups shown, in their order. -/
  visible : List GroupId
deriving DecidableEq, Repr

namespace Board

/-- No groups yet. -/
def empty : Board := ⟨[], [], 0, [], []⟩

/-! ## The tables -/

/-- The place of the next cluster. -/
def nextLink (board : Board) : LinkId := board.links.length

/-- The place of the next group. -/
def nextGroup (board : Board) : GroupId := board.groups.length

/-- With a cluster in the next place. -/
def addLink (board : Board) (cluster : Cluster) : Board :=
  { board with links := board.links ++ [cluster] }

/-- With clusters in the next places. -/
def addLinks (board : Board) (clusters : List Cluster) : Board :=
  { board with links := board.links ++ clusters }

/-- With a group in the next place. -/
def addGroup (board : Board) (group : Group) : Board :=
  { board with groups := board.groups ++ [group] }

/-- With a group changed. -/
def modifyGroup (board : Board) (id : GroupId) (change : Group → Group) : Board :=
  { board with groups := board.groups.modify id change }

@[simp] theorem groups_modifyGroup (board : Board) (id place : GroupId) (change : Group → Group) :
    (board.modifyGroup id change).groups[place]? =
      if id = place then board.groups[place]?.map change else board.groups[place]? := by
  unfold modifyGroup
  rw [List.getElem?_modify]
  split <;> simp

/-- The cluster of a group. -/
def cluster? (board : Board) (id : GroupId) : Option Cluster :=
  board.groups[id]?.bind fun group => board.links[group.link]?

/-- The clusters in some places. -/
def clusters (board : Board) (links : List LinkId) : List Cluster :=
  links.filterMap fun link => board.links[link]?

/-! ## One group -/

def isVisible (board : Board) (id : GroupId) : Bool :=
  board.groups[id]?.any fun group => group.isVisible

def setVisible (board : Board) (id : GroupId) (isVisible : Bool) : Board :=
  board.modifyGroup id fun group => { group with isVisible := isVisible }

@[simp] theorem groups_setVisible (board : Board) (id place : GroupId) (isVisible : Bool) :
    (board.setVisible id isVisible).groups[place]? =
      if id = place then board.groups[place]?.map fun group => { group with isVisible := isVisible }
      else board.groups[place]? := board.groups_modifyGroup ..

def resolution? (board : Board) (id : GroupId) : Option Resolution :=
  board.groups[id]?.map fun group => group.resolution

/-- With the search for a group's title begun; none if it is under way. -/
def begin? (board : Board) (id : GroupId) : Option Board :=
  if board.resolution? id = some .resolving then none
  else some (board.modifyGroup id fun group => { group with resolution := .resolving })

/-- With the search for a group's title over. -/
def markResolved (board : Board) (id : GroupId) : Board :=
  board.modifyGroup id fun group => { group with resolution := .resolved }

@[simp] theorem groups_markResolved (board : Board) (id place : GroupId) :
    (board.markResolved id).groups[place]? =
      if id = place then
        board.groups[place]?.map fun group => { group with resolution := .resolved }
      else board.groups[place]? := board.groups_modifyGroup ..

@[simp] theorem links_markResolved (board : Board) (id : GroupId) :
    (board.markResolved id).links = board.links := rfl

/-- With the search for a group's title given up, if it is under way. -/
def giveUp (board : Board) (id : GroupId) : Board :=
  board.modifyGroup id fun group =>
    if group.resolution = .resolving then { group with resolution := .unresolved } else group

/-- With the title of a cluster. -/
def setLinkTitle (board : Board) (link : LinkId) (title : String) : Board :=
  { board with links := board.links.modify link fun cluster => cluster.withTitle title }

/-- With the title of a group's cluster. -/
def setTitle (board : Board) (id : GroupId) (title : String) : Board :=
  match board.groups[id]? with
  | some group => board.setLinkTitle group.link title
  | none => board

@[simp] theorem groups_setTitle (board : Board) (id : GroupId) (title : String) :
    (board.setTitle id title).groups = board.groups := by
  unfold setTitle
  split <;> rfl

theorem links_setTitle (board : Board) (id : GroupId) (title : String) {group : Group}
    (hgroup : board.groups[id]? = some group) (place : LinkId) :
    (board.setTitle id title).links[place]? =
      if group.link = place then board.links[place]?.map fun cluster => cluster.withTitle title
      else board.links[place]? := by
  unfold setTitle setLinkTitle
  rw [hgroup, List.getElem?_modify]
  split <;> simp

/-- With the articles a group is shown with. -/
def setItems (board : Board) (id : GroupId) (items : List Article) : Board :=
  board.modifyGroup id fun group => { group with items := items }

@[simp] theorem groups_setItems (board : Board) (id place : GroupId) (items : List Article) :
    (board.setItems id items).groups[place]? =
      if id = place then board.groups[place]?.map fun group => { group with items := items }
      else board.groups[place]? := board.groups_modifyGroup ..

/-- A group as it is now. -/
def view? (board : Board) (id : GroupId) : Option GroupView := do
  let group ← board.groups[id]?
  let cluster ← board.links[group.link]?
  return {
    seq := group.seq
    url := cluster.url
    title := cluster.displayName
    isResolved := group.resolution = .resolved
    referenceCount := cluster.referenceCount
    shownReferences := group.items.length
    average := cluster.average }

/-- The articles of a group as they are now. -/
def itemViews (board : Board) (id : GroupId) : List ItemView :=
  match board.groups[id]? with
  | some group => group.items.map ItemView.ofArticle
  | none => []

/-! ## The groups known and the groups shown -/

/-- The group known for a link. -/
def find? (board : Board) (url : String) : Option GroupId := board.known.lookup url

/-- With a group known for a link in place of the one before. -/
def know (board : Board) (url : String) (id : GroupId) : Board :=
  { board with known := (url, id) :: board.known.filter fun entry => entry.1 ≠ url }

/-- A new group for a cluster, with a number. -/
def newGroup (board : Board) (seq : Nat) (link : LinkId) (url : String) : GroupId × Board :=
  (board.nextGroup, (board.addGroup (Group.new seq link)).know url board.nextGroup)

/-- The group for the cluster in a place; none if there is no such cluster.
The group known for the link is the answer if it was made for this very
cluster; if it was made for another one, it goes out of sight and leaves its
number. -/
def groupFor? (board : Board) (link : LinkId) : Option (GroupId × Board) :=
  board.links[link]?.map fun cluster =>
    match board.find? cluster.url with
    | none =>
      { board with issued := board.issued + 1 }.newGroup (board.issued + 1) link cluster.url
    | some known =>
      match board.groups[known]? with
      | none => (known, board)
      | some group =>
        if group.link = link then (known, board)
        else (board.setVisible known false).newGroup group.seq link cluster.url

/-- Several groups shown, or several hidden, one after the other. -/
def setAllVisible (board : Board) (ids : List GroupId) (isVisible : Bool) : Board :=
  ids.foldl (fun board id => board.setVisible id isVisible) board

@[simp] theorem groups_setAllVisible (ids : List GroupId) (isVisible : Bool) (board : Board)
    (place : GroupId) : (board.setAllVisible ids isVisible).groups[place]? =
      if place ∈ ids then
        board.groups[place]?.map fun group => { group with isVisible := isVisible }
      else board.groups[place]? := by
  unfold setAllVisible
  induction ids generalizing board with
  | nil => simp
  | cons id ids ih =>
    rw [List.foldl_cons, ih, groups_setVisible]
    by_cases hid : id = place
    · subst hid
      cases board.groups[id]? <;> simp
    · have hne : place ≠ id := fun h => hid h.symm
      simp [hid, hne]

@[simp] theorem known_setAllVisible (ids : List GroupId) (isVisible : Bool) (board : Board) :
    (board.setAllVisible ids isVisible).known = board.known := by
  unfold setAllVisible
  induction ids generalizing board with
  | nil => rfl
  | cons id ids ih => exact ih _

@[simp] theorem visible_setAllVisible (ids : List GroupId) (isVisible : Bool) (board : Board) :
    (board.setAllVisible ids isVisible).visible = board.visible := by
  unfold setAllVisible
  induction ids generalizing board with
  | nil => rfl
  | cons id ids ih => exact ih _

/-- With exactly these groups shown. -/
def replaceVisible (board : Board) (ids : List GroupId) : Board :=
  { (board.setAllVisible board.visible false).setAllVisible ids true with visible := ids }

@[simp] theorem known_replaceVisible (board : Board) (ids : List GroupId) :
    (board.replaceVisible ids).known = board.known := by
  simp [replaceVisible]

/-- Without the groups of links that are not among these; they go out of sight. -/
def retain (board : Board) (urls : List String) : Board :=
  let dropped := board.known.filter fun entry => !urls.contains entry.1
  { board.setAllVisible (dropped.map Prod.snd) false with
    known := board.known.filter fun entry => urls.contains entry.1 }

@[simp] theorem known_retain (board : Board) (urls : List String) :
    (board.retain urls).known = board.known.filter fun entry => urls.contains entry.1 := rfl

@[simp] theorem visible_retain (board : Board) (urls : List String) :
    (board.retain urls).visible = board.visible := by
  simp [retain]

/-- The number of groups known. -/
def knownCount (board : Board) : Nat := board.known.length

/-- The groups shown as they are now. -/
def visibleViews (board : Board) : List GroupView := board.visible.filterMap board.view?

end Board

end LinkDigest
