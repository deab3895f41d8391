import LinkDigest.Proofs.Board.Numbers
import Mathlib.Data.List.Induction

/-!
# Boards over time

Groups are asked for, shown and forgotten, in any order, and all the while clusters come to
be and titles are searched. Whatever happens comes down to one of a few changes, by which
boards stay sound.
-/

namespace LinkDigest.Board

/-! ## Runs -/

/-- What can be done with a board and with its groups, but that none is shown or hidden
alone. -/
inductive Action where
  | addLink (cluster : Cluster)
  /-- A group is made that the board does not know. -/
  | addGroup (seq : Nat) (link : LinkId)
  | groupFor (link : LinkId)
  | replaceVisible (ids : List GroupId)
  | retain (urls : List String)
  | search (id : GroupId)
  | markResolved (id : GroupId)
  | giveUp (id : GroupId)
  | setLinkTitle (link : LinkId) (title : String)
  | setItems (id : GroupId) (items : List Article)
deriving Repr

/-- A group can only be made for a cluster that is there, and only groups that are there can
be shown. -/
def act (board : Board) : Action → Board
  | .addLink cluster => board.addLink cluster
  | .addGroup seq link =>
    if link < board.nextLink then board.addGroup (Group.new seq link) else board
  | .groupFor link => ((board.groupFor? link).map Prod.snd).getD board
  | .replaceVisible ids =>
    if ids.all fun id => id < board.nextGroup then board.replaceVisible ids else board
  | .retain urls => board.retain urls
  | .search id => (board.begin? id).getD board
  | .markResolved id => board.markResolved id
  | .giveUp id => board.giveUp id
  | .setLinkTitle link title => board.setLinkTitle link title
  | .setItems id items => board.setItems id items

/-- The group that is given, with the cluster that it was asked for. -/
def gives? (board : Board) : Action → Option (LinkId × GroupId)
  | .groupFor link => (board.groupFor? link).map fun answer => (link, answer.1)
  | _ => none

/-- A board and the groups that it has given, with the clusters that they were asked for. -/
structure History where
  board : Board
  given : List (LinkId × GroupId)

def History.act (history : History) (action : Action) : History where
  board := history.board.act action
  given := history.given ++ (history.board.gives? action).toList

/-- An empty board after some actions. -/
def run (actions : List Action) : History := actions.foldl History.act ⟨empty, []⟩

theorem run_append (actions more : List Action) :
    run (actions ++ more) = more.foldl History.act (run actions) := List.foldl_append ..

theorem run_concat (actions : List Action) (action : Action) :
    run (actions ++ [action]) = (run actions).act action := run_append actions [action]

/-! ## What an action comes to -/

/-- What an action comes to, and the group that is given. -/
inductive Does (board : Board) : Option (LinkId × GroupId) → Board → Prop where
  /-- Only titles and searches change, if anything. -/
  | tend {after : Board} (h : SameOutline board after) : Does board none after
  | setItems (id : GroupId) (items : List Article) : Does board none (board.setItems id items)
  | addLink (cluster : Cluster) : Does board none (board.addLink cluster)
  | addGroup (seq : Nat) {link : LinkId} (h : link < board.links.length) :
    Does board none (board.addGroup (Group.new seq link))
  | give {link : LinkId} {id : GroupId} {next : Board} (h : Given board link id next) :
    Does board (some (link, id)) next
  | replaceVisible {ids : List GroupId} (h : ∀ id ∈ ids, id < board.groups.length) :
    Does board none (board.replaceVisible ids)
  | retain (urls : List String) : Does board none (board.retain urls)

variable {board after : Board} {asked : Option (LinkId × GroupId)}

theorem does_act (h : board.Sound) (action : Action) :
    Does board (board.gives? action) (board.act action) := by
  cases action with
  | addLink cluster => exact .addLink cluster
  | addGroup seq link =>
    rw [act]
    split
    · rename_i hlink
      exact .addGroup seq hlink
    · exact .tend (.refl board)
  | groupFor link =>
    rw [act, gives?]
    cases hlink : board.links[link]? with
    | none =>
      have hnone : board.groupFor? link = none := by simp [groupFor?, hlink]
      rw [hnone]
      exact .tend (.refl board)
    | some cluster =>
      obtain ⟨id, next, hnext, hgiven⟩ := h.groupFor? hlink
      rw [hnext]
      exact .give hgiven
  | replaceVisible ids =>
    rw [act]
    split
    · rename_i hids
      exact .replaceVisible fun id hid => of_decide_eq_true (List.all_eq_true.mp hids id hid)
    · exact .tend (.refl board)
  | retain urls => exact .retain urls
  | search id =>
    rw [act]
    cases hbegun : board.begin? id with
    | none => exact .tend (.refl board)
    | some begun => exact .tend (sameOutline_begin? hbegun)
  | markResolved id => exact .tend (board.sameOutline_markResolved id)
  | giveUp id => exact .tend (board.sameOutline_giveUp id)
  | setLinkTitle link title => exact .tend (board.sameOutline_setLinkTitle link title)
  | setItems id items => exact .setItems id items

/-- Whatever is done, groups and clusters keep their places. -/
theorem Does.extends (h : Does board asked after) : Extends board after := by
  cases h with
  | tend h => exact h.keeps.toExtends
  | setItems id items => exact board.extends_setItems id items
  | addLink cluster => exact (board.keeps_addLinks [cluster]).toExtends
  | addGroup seq => exact board.extends_addGroup _
  | give h => exact h.toGroupFor.keeps.toExtends
  | replaceVisible => exact (board.sameHidden_replaceVisible _).keeps.toExtends
  | retain urls => exact (board.sameHidden_retain urls).keeps.toExtends

theorem Does.sound (h : Does board asked after) (hsound : board.Sound) : after.Sound := by
  cases h with
  | tend h => exact h.sound hsound
  | setItems id items => exact sound_setItems hsound id items
  | addLink cluster => exact sound_addLinks hsound [cluster]
  | addGroup seq hlink => exact sound_addGroup hsound hlink
  | give h => exact h.toGroupFor.sound hsound h.lt
  | replaceVisible hids => exact sound_replaceVisible hsound hids
  | retain urls => exact sound_retain hsound urls

theorem sound_run (actions : List Action) : (run actions).board.Sound := by
  induction actions using List.reverseRecOn with
  | nil => exact .empty
  | append_singleton actions action ih =>
    rw [run_concat]
    exact (does_act ih action).sound ih

/-- If no group is given, no number is, and of the groups known those of some links stay
so. -/
theorem Does.known (h : Does board none after) : after.issued = board.issued ∧
    ∃ keep : String → Bool, after.known = board.known.filter fun entry => keep entry.1 := by
  have hall : board.known = board.known.filter fun _ => true := by simp
  cases h with
  | tend h => exact ⟨h.issued, fun _ => true, h.known.trans hall⟩
  | setItems | addLink | addGroup => exact ⟨rfl, fun _ => true, hall⟩
  | replaceVisible =>
    exact ⟨(board.sameHidden_replaceVisible _).issued, fun _ => true,
      (board.known_replaceVisible _).trans hall⟩
  | retain urls =>
    exact ⟨(board.sameHidden_retain urls).issued, urls.contains, rfl⟩

end LinkDigest.Board
