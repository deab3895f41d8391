import LinkDigest.Proofs.Title.Exclusion

/-!
# Searches that are not accepted

A group is claimed before the pool is asked, and when the pool does not accept the search, the
claim is given up like that of a search under way: the group counts as one whose title was
never found. For a group without a title that is how it was before. A group whose title was
found and has gone from the cache loses its mark, while its cluster keeps the title and the
reader is told nothing. All else stays as it was.
-/

namespace LinkDigest

namespace Board

variable {board begun : Board} {id : GroupId}

/-- With nothing said of how far the search for a group's title has come. -/
def unmark (board : Board) (id : GroupId) : Board :=
  board.modifyGroup id fun group => { group with resolution := .unresolved }

/-- A claim that is given up leaves no trace of what the group was before. -/
theorem giveUp_begin? (h : board.begin? id = some begun) : begun.giveUp id = board.unmark id := by
  rw [eq_of_begin?_eq_some h]
  unfold giveUp unmark modifyGroup
  simp [List.modify_modify_eq, Function.comp_def]

/-- Only a mark is lost. -/
theorem unmark_eq_self (h : board.resolution? id = some .unresolved) : board.unmark id = board := by
  have hgroups : board.groups.modify id (fun group => { group with resolution := .unresolved }) =
      board.groups := by
    refine List.ext_getElem? fun place => ?_
    rw [List.getElem?_modify]
    split
    · rename_i hplace
      subst hplace
      obtain ⟨group, hgroup, hunresolved⟩ := Option.map_eq_some_iff.mp h
      simp [hgroup, ← hunresolved]
    · simp
  unfold unmark modifyGroup
  rw [hgroups]

/-- A group that can be claimed is unresolved or resolved. -/
theorem resolution?_eq_unresolved (hbegin : board.begin? id = some begun)
    (hcluster : board.cluster? id ≠ none) (hne : board.resolution? id ≠ some .resolved) :
    board.resolution? id = some .unresolved := by
  cases hresolution : board.resolution? id with
  | none =>
    refine absurd ?_ hcluster
    rw [cluster?, Option.map_eq_none_iff.mp hresolution, Option.bind_none]
  | some resolution =>
    cases resolution with
    | unresolved => rfl
    | resolving => cases (begin?_eq_none hresolution).symm.trans hbegin
    | resolved => exact absurd hresolution hne

end Board

namespace Resolver

/-- When the pool does not accept a search, the name shown, the pool, the cache, the events and
all that the board says of links and of other groups are as they were. The group itself is as
it was, too, unless it was marked as resolved: then the mark is gone. -/
theorem resolve_notAccepted {resolver : Resolver} {id : GroupId} {cluster : Cluster}
    {error : PoolError} (hcluster : resolver.desk.board.cluster? id = some cluster)
    (hvisible : resolver.desk.board.isVisible id)
    (hmiss : resolver.desk.cache.contains cluster.url = false)
    (hrefused : resolver.pool.submit id = .error error) :
    ∃ (board : Board) (metrics : Metrics),
      resolver.resolve id = (some cluster.displayName,
        { resolver with desk := { resolver.desk with board := board, metrics := metrics } }) ∧
      (resolver.isStopped ∨ resolver.desk.board.resolution? id ≠ some .resolved →
        board = resolver.desk.board) ∧
      (resolver.isStopped = false → resolver.desk.board.resolution? id = some .resolved →
        board = resolver.desk.board.unmark id) := by
  have hfind : resolver.desk.cache.find? cluster.url = none := by
    simpa [TitleCache.contains] using hmiss
  have hname : (resolver.resolve id).1 = some cluster.displayName := by
    simp [resolve, lookup, Desk.lookup, hcluster, hfind]
  have hresult := resolver.resolves id
  generalize hnext : resolver.resolve id = next at hname hresult
  obtain ⟨name, next⟩ := next
  subst hname
  cases hresult with
  | unknown hnone => cases hnone.symm.trans hcluster
  | cached other title metrics hother htitle =>
    cases hother.symm.trans hcluster
    cases htitle.symm.trans hfind
  | unwanted metrics hreason =>
    have hstopped : resolver.isStopped := hreason.resolve_right (by simp [hvisible])
    exact ⟨_, metrics, rfl, fun _ => rfl, fun hrunning => by cases hstopped.symm.trans hrunning⟩
  | busy metrics hbegin =>
    refine ⟨_, metrics, rfl, fun _ => rfl, fun _ hresolved => ?_⟩
    simp [Board.begin?, hresolved] at hbegin
  | begun other metrics board pool hother hbegin hsubmit =>
    cases hsubmit.symm.trans hrefused
  | refused metrics board hbegin hdown =>
    refine ⟨_, metrics, rfl, fun hkept => ?_, fun _ _ => Board.giveUp_begin? hbegin⟩
    have hrunning : resolver.isStopped = false := by
      simp only [isTurnedDown, hcluster, Bool.and_eq_true, Bool.not_eq_true'] at hdown
      exact hdown.1.1.1.2
    have hne := hkept.resolve_left (by simp [hrunning])
    rw [Board.giveUp_begin? hbegin, Board.unmark_eq_self]
    exact Board.resolution?_eq_unresolved hbegin (by simp [hcluster]) hne

/-- One worker, and one place in the queue. -/
def narrow : ResolverConfig := { ResolverConfig.default with workers := 1, queueCapacity := 1 }

/-- The answers come at once, and all pages have one title. -/
def namesakes : Network := fun _ =>
  ⟨false, .ok ⟨some "text/html".toList,
    ["<title>A</title>".toList.map fun c => c.toNat.toUInt8], .complete⟩⟩

/-- A group is resolved, its title goes from the cache, and another group fills the queue. -/
def purgedAndFull : List Move := [
  .addLink (.new "http://x.test/a"),
  .addLink (.new "http://x.test/b"),
  .addGroup 1 0,
  .addGroup 2 1,
  .setVisible 0 true,
  .setVisible 1 true,
  .resolve 0,
  .act .settle,
  .act .clear,
  .resolve 1]

theorem resolve_notAccepted_purgedAndFull :
    let resolver := (new narrow .empty namesakes .unused).moveAll purgedAndFull
    let cluster := (Cluster.new "http://x.test/a").withTitle "A"
    resolver.desk.board.cluster? 0 = some cluster ∧ resolver.desk.board.isVisible 0 ∧
    resolver.desk.cache.contains "http://x.test/a" = false ∧
    resolver.pool.submit 0 = .error (.full 1) ∧
    ∃ (board : Board) (metrics : Metrics),
      resolver.resolve 0 = (some "A",
        { resolver with desk := { resolver.desk with board := board, metrics := metrics } }) ∧
      board = resolver.desk.board.unmark 0 := by
  intro resolver cluster
  have hcluster : resolver.desk.board.cluster? 0 = some cluster := by decide +kernel
  have hvisible : resolver.desk.board.isVisible 0 := by decide +kernel
  have hmiss : resolver.desk.cache.contains "http://x.test/a" = false := by decide +kernel
  have hrefused : resolver.pool.submit 0 = .error (.full 1) := by decide +kernel
  obtain ⟨board, metrics, hresult, -, hboard⟩ :=
    resolve_notAccepted hcluster hvisible hmiss hrefused
  exact ⟨hcluster, hvisible, hmiss, hrefused, board, metrics, hresult,
    hboard (by decide +kernel) (by decide +kernel)⟩

/-- A group turns from resolved to unresolved because the queue is full. -/
theorem resolve_unmarks :
    let resolver := (new narrow .empty namesakes .unused).moveAll purgedAndFull
    resolver.desk.board.isVisible 0 ∧
    resolver.desk.cache.contains "http://x.test/a" = false ∧
    resolver.pool.pending = resolver.pool.capacity ∧
    resolver.desk.board.resolution? 0 = some .resolved ∧
    (resolver.resolve 0).2.desk.board.resolution? 0 = some .unresolved := by
  decide +kernel

end Resolver

end LinkDigest
