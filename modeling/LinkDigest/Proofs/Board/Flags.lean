import LinkDigest.Proofs.Board.History

/-!
# Groups in sight

Whether it is shown is noted with each group, and the board has a list of the groups shown.
A group that goes out of sight stays on the list until the list is replaced, but none comes
into sight otherwise: whatever is done, no group is shown that is not listed. This goes for
all groups there have ever been, also for those that the board knows no more.
-/

namespace LinkDigest.Board

/-- No group is shown that is not listed. -/
def Listed (board : Board) : Prop := ∀ id, board.isVisible id → id ∈ board.visible

/-- Exactly the groups that are listed are shown, and all of them are known. -/
structure Tidy (board : Board) : Prop where
  shown : ∀ id, board.isVisible id ↔ id ∈ board.visible
  known : ∀ id ∈ board.visible, ∃ url, board.find? url = some id

variable {board after next : Board} {id : GroupId}

/-! ## Who is shown after each change -/

theorem SameOutline.isVisible_iff (h : SameOutline board after) (id : GroupId) :
    after.isVisible id ↔ board.isVisible id := ⟨h.symm.isVisible, h.isVisible⟩

@[simp] theorem isVisible_setItems (board : Board) (place : GroupId) (items : List Article)
    (id : GroupId) : (board.setItems place items).isVisible id = board.isVisible id := by
  unfold isVisible
  rw [groups_setItems]
  split
  · cases board.groups[id]? <;> rfl
  · rfl

/-- A new group is not shown. -/
@[simp] theorem isVisible_addGroup (board : Board) (seq : Nat) (link : LinkId) (id : GroupId) :
    (board.addGroup (Group.new seq link)).isVisible id = board.isVisible id := by
  unfold isVisible addGroup
  rw [List.getElem?_append]
  split
  · rfl
  · rename_i hge
    rw [List.getElem?_eq_none (Nat.not_lt.mp hge)]
    cases id - board.groups.length <;> rfl

theorem isVisible_hideAll (board : Board) (ids : List GroupId) (id : GroupId) :
    (board.setAllVisible ids false).isVisible id ↔ board.isVisible id ∧ id ∉ ids := by
  unfold isVisible
  rw [groups_setAllVisible]
  by_cases hid : id ∈ ids
  · cases board.groups[id]? <;> simp [hid]
  · simp [hid]

theorem isVisible_retain (board : Board) (urls : List String) (id : GroupId) :
    (board.retain urls).isVisible id ↔ board.isVisible id ∧
      id ∉ (board.known.filter fun entry => !urls.contains entry.1).map Prod.snd := by
  exact board.isVisible_hideAll _ id

/-- A group that is given is not shown for that, and that for another cluster goes out of
sight. -/
theorem Given.isVisible {link : LinkId} {given : GroupId} (h : Given board link given next)
    (hvisible : next.isVisible id) : board.isVisible id := by
  obtain ⟨cluster, -, hgives⟩ := h.gives
  cases hgives with
  | known => exact hvisible
  | fresh =>
    exact (isVisible_addGroup { board with issued := board.issued + 1 } _ link id) ▸ hvisible
  | renewed known group =>
    have hhidden : (board.setVisible known false).isVisible id :=
      (isVisible_addGroup (board.setVisible known false) _ link id) ▸ hvisible
    exact ((board.isVisible_hideAll [known] id).mp hhidden).1

/-- Just after groups have been listed exactly these are shown. -/
theorem Listed.isVisible_replaceVisible (h : board.Listed) {ids : List GroupId}
    (hids : ∀ id ∈ ids, id < board.groups.length) (id : GroupId) :
    (board.replaceVisible ids).isVisible id ↔ id ∈ ids := by
  unfold isVisible
  rw [groups_replaceVisible]
  split
  · rename_i hlisted
    simp [hlisted, hids id hlisted]
  · rename_i hlisted
    refine iff_of_false ?_ hlisted
    split
    · cases board.groups[id]? <;> simp [Group.hidden]
    · -- Nobody is overlooked when those who were listed are hidden.
      rename_i hbefore
      exact fun hvisible => hbefore (h id hvisible)

theorem SameOutline.find? (h : SameOutline board after) (url : String) :
    after.find? url = board.find? url := by
  unfold Board.find?
  rw [h.known]

theorem Tidy.empty : Board.empty.Tidy where
  shown _ := ⟨(nomatch ·), (nomatch ·)⟩
  known _ h := nomatch h

theorem Tidy.of_outline (h : board.Tidy) (hsame : SameOutline board after) : after.Tidy where
  shown id := by
    rw [hsame.isVisible_iff, hsame.visible]
    exact h.shown id
  known id hid := by
    obtain ⟨url, hurl⟩ := h.known id (hsame.visible ▸ hid)
    exact ⟨url, (hsame.find? url).trans hurl⟩

/-! ## Whatever is done -/

theorem Listed.does {asked : Option (LinkId × GroupId)} (h : board.Listed)
    (hdoes : Does board asked after) : after.Listed := by
  intro id hvisible
  cases hdoes with
  | tend hsame => exact hsame.visible ▸ h id ((hsame.isVisible_iff id).mp hvisible)
  | setItems place items => exact h id (by simpa using hvisible)
  | addLink => exact h id hvisible
  | addGroup seq => exact h id (by simpa using hvisible)
  | give hgiven => exact hgiven.visible ▸ h id (hgiven.isVisible hvisible)
  | replaceVisible hids => exact (h.isVisible_replaceVisible hids id).mp hvisible
  | retain urls => simpa using h id ((board.isVisible_retain urls id).mp hvisible).1

theorem listed_run (actions : List Action) : (run actions).board.Listed := by
  induction actions using List.reverseRecOn with
  | nil => exact fun _ h => nomatch h
  | append_singleton actions action ih =>
    rw [run_concat]
    exact ih.does (does_act (sound_run actions) action)

end LinkDigest.Board
