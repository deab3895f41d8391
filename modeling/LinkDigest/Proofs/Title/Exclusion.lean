import LinkDigest.Proofs.Title.Tending
import Mathlib.Data.List.Count

/-!
# One search for a group at a time

A group is claimed when a job for it is queued, and the claim lasts until the
job has come to its end. So a second job is not queued meanwhile, with one
exception: a title found in the cache ends the claim but not the job. Once that
title is gone from the cache, the group can be claimed again while its first
job still waits.
-/

namespace LinkDigest

/-! ## Claims -/

namespace Board

variable {board begun : Board} {id other : GroupId}

theorem resolution?_modifyGroup_of_ne {change : Group → Group} (h : other ≠ id) :
    (board.modifyGroup other change).resolution? id = board.resolution? id := by
  simp [resolution?, h]

theorem resolution?_resolved_of_ne (title : String) (h : other ≠ id) :
    ((board.setTitle other title).markResolved other).resolution? id = board.resolution? id := by
  simp [resolution?, h]

theorem resolution?_begin?_of_ne (hbegin : board.begin? other = some begun) (h : other ≠ id) :
    begun.resolution? id = board.resolution? id := by
  rw [eq_of_begin?_eq_some hbegin, resolution?_modifyGroup_of_ne h]

theorem resolution?_begin? (hbegin : board.begin? id = some begun)
    (hcluster : board.cluster? id ≠ none) : begun.resolution? id = some .resolving := by
  rw [eq_of_begin?_eq_some hbegin]
  cases hgroup : board.groups[id]? with
  | none => exact absurd (by simp [cluster?, hgroup]) hcluster
  | some group => simp [resolution?, hgroup]

theorem begin?_eq_none (h : board.resolution? id = some .resolving) : board.begin? id = none := by
  unfold begin?
  rw [if_pos h]

end Board

namespace Resolver

/-- A group has at most one job, and as long as it has one it is claimed. -/
structure Exclusive (resolver : Resolver) (id : GroupId) : Prop where
  count_le : resolver.pool.jobs.count id ≤ 1
  claimed : id ∈ resolver.pool.jobs → resolver.desk.board.resolution? id = some .resolving

variable {resolver : Resolver} {id : GroupId}

/-- Whoever changes neither the jobs nor the claim of a group keeps both in step. -/
theorem Exclusive.of_eq {after : Resolver} (h : resolver.Exclusive id)
    (hjobs : after.pool.jobs.count id = resolver.pool.jobs.count id)
    (hclaim : after.desk.board.resolution? id = resolver.desk.board.resolution? id) :
    after.Exclusive id where
  count_le := hjobs ▸ h.count_le
  claimed hid := by
    rw [hclaim]
    refine h.claimed ?_
    rw [← List.count_pos_iff, ← hjobs, List.count_pos_iff]
    exact hid

/-- A group without a job may be claimed or not. -/
theorem exclusive_of_not_mem (h : id ∉ resolver.pool.jobs) : resolver.Exclusive id where
  count_le := by
    rw [List.count_eq_zero_of_not_mem h]
    exact Nat.zero_le 1
  claimed hid := absurd hid h

/-! ## Tasks -/

section

variable {task : Task GroupId} {next : Pool GroupId}
  (hnext : resolver.pool.next? = some (task, next))

include hnext

theorem Exclusive.waits {desk : Desk} (h : resolver.Exclusive id) (gate : Option String)
    (hclaim : desk.board.resolution? id = resolver.desk.board.resolution? id) :
    Exclusive ⟨desk, next.after task.job (.waits gate)⟩ id := by
  have hjobs : (next.after task.job (.waits gate)).jobs.Perm resolver.pool.jobs :=
    (next.jobs_after_waits task.job gate).trans (Pool.jobs_next? hnext).symm
  exact h.of_eq (hjobs.count_eq id) hclaim

/-- A job that ends may end the claim of its own group only. -/
theorem Exclusive.finished {desk : Desk} (h : resolver.Exclusive id)
    (hclaim : task.job ≠ id → desk.board.resolution? id = resolver.desk.board.resolution? id) :
    Exclusive ⟨desk, next.after task.job .finished⟩ id := by
  have hjobs : (next.after task.job .finished).jobs = next.jobs :=
    next.jobs_after_finished task.job
  have hcount := (Pool.jobs_next? hnext).count_eq id
  by_cases hjob : task.job = id
  · refine exclusive_of_not_mem ?_
    show id ∉ (next.after task.job .finished).jobs
    have hone := h.count_le
    rw [hcount, hjob, List.count_cons_self] at hone
    rw [hjobs, ← List.count_eq_zero]
    omega
  · refine h.of_eq ?_ (hclaim hjob)
    show (next.after task.job .finished).jobs.count id = _
    rw [hjobs, hcount, List.count_cons_of_ne hjob]

theorem Exclusive.performs (h : resolver.Exclusive id) {result : Desk × Progress}
    (hresult : Desk.Performs resolver.desk task result) :
    Exclusive ⟨result.1, next.after task.job result.2⟩ id := by
  cases hresult with
  | waits cluster opened gate => exact h.waits hnext gate rfl
  | nothing => exact h.finished hnext fun _ => rfl
  | hidden => exact h.finished hnext Board.resolution?_modifyGroup_of_ne
  | stopped => exact h.finished hnext Board.resolution?_modifyGroup_of_ne
  | cancelled => exact h.finished hnext Board.resolution?_modifyGroup_of_ne
  | resolved cluster opened metrics title outcome =>
    refine h.finished hnext fun hne => ?_
    simpa using Board.resolution?_resolved_of_ne title hne

end

theorem Exclusive.workOnce (h : resolver.Exclusive id) : resolver.workOnce.Exclusive id := by
  cases hnext : resolver.pool.next? with
  | none =>
    have hstarted := Pool.started_of_next?_eq_none hnext
    have hjobs : ({ resolver.pool with turns := [] } : Pool GroupId).jobs = resolver.pool.jobs :=
      congrArg (resolver.pool.queue ++ ·) hstarted
    have hidle : resolver.workOnce = { resolver with pool := { resolver.pool with turns := [] } } :=
      by rw [Resolver.workOnce, hnext]
    rw [hidle]
    exact h.of_eq (congrArg (List.count id) hjobs) rfl
  | some found =>
    obtain ⟨task, next⟩ := found
    rw [workOnce_eq hnext]
    exact h.performs hnext (Desk.performs task resolver.desk)

theorem Exclusive.act (h : resolver.Exclusive id) (action : Action) :
    (resolver.act action).Exclusive id := by
  cases action with
  | release url => exact h.of_eq ((resolver.pool.jobs_release url).count_eq id) rfl
  | work => exact h.workOnce
  | postpone => exact h.of_eq (resolver.pool.jobs_postpone.count_eq id) rfl
  | dispatch => exact h.of_eq rfl rfl
  | settle =>
    have hwork : resolver.work.Exclusive id :=
      work_induction (P := fun next => next.Exclusive id) (fun _ hbefore => hbefore.workOnce)
        resolver h
    exact hwork.of_eq rfl rfl
  | lookup url => exact h.of_eq rfl rfl
  | put url title => exact h.of_eq rfl rfl
  | clear => exact h.of_eq rfl rfl
  | stop => exact h.of_eq (resolver.pool.shutdown.jobs_wakeAll.count_eq id) rfl

/-! ## Asking for titles -/

/-- Whether the title of a group is in the cache although a job of it has not ended. -/
def isHitWhileBusy (resolver : Resolver) (id : GroupId) : Bool :=
  resolver.pool.jobs.contains id &&
    (resolver.desk.board.cluster? id).any fun cluster => resolver.desk.cache.contains cluster.url

theorem Exclusive.resolves {next : Resolver} {other : GroupId} (h : resolver.Exclusive id)
    (hresult : Resolves resolver other next)
    (hmiss : other = id → resolver.isHitWhileBusy id = false) : next.Exclusive id := by
  have hother : ∀ {begun : Board}, resolver.desk.board.begin? other = some begun → other = id →
      id ∉ resolver.pool.jobs := by
    rintro begun hbegin rfl hid
    rw [Board.begin?_eq_none (h.claimed hid)] at hbegin
    cases hbegin
  cases hresult with
  | unknown => exact h
  | unwanted => exact h.of_eq rfl rfl
  | busy => exact h.of_eq rfl rfl
  | cached cluster title metrics hcluster hfind =>
    by_cases hid : other = id
    · subst hid
      refine exclusive_of_not_mem fun hjob => ?_
      have hfound := hmiss rfl
      simp [isHitWhileBusy, hjob, hcluster, TitleCache.contains, hfind] at hfound
    · refine h.of_eq rfl ?_
      simpa using Board.resolution?_resolved_of_ne title hid
  | begun cluster metrics board pool hcluster hbegin hsubmit =>
    have hcount := (Pool.jobs_submit hsubmit).count_eq id
    by_cases hid : other = id
    · have hnone := List.count_eq_zero_of_not_mem (hother hbegin hid)
      subst hid
      refine ⟨?_, fun _ => Board.resolution?_begin? hbegin (by simp [hcluster])⟩
      rw [hcount, List.count_cons_self, hnone]
    · refine h.of_eq ?_ (Board.resolution?_begin?_of_ne hbegin hid)
      rw [hcount, List.count_cons_of_ne hid]
  | refused metrics board hbegin hrefused =>
    by_cases hid : other = id
    · exact exclusive_of_not_mem (hother hbegin hid)
    · refine h.of_eq rfl ?_
      exact (Board.resolution?_modifyGroup_of_ne hid).trans
        (Board.resolution?_begin?_of_ne hbegin hid)

/-! ## Whatever is done -/

/-- What can be done with a resolver and with the groups that ask it for titles. -/
inductive Move where
  | addLink (cluster : Cluster)
  | addGroup (seq : Nat) (link : LinkId)
  | setVisible (id : GroupId) (isVisible : Bool)
  /-- The title of a group is asked for. -/
  | resolve (id : GroupId)
  | act (action : Action)

def Move.asksFor (id : GroupId) : Move → Bool
  | .resolve other => other = id
  | .addLink _ | .addGroup .. | .setVisible .. | .act _ => false

def move (resolver : Resolver) : Move → Resolver
  | .addLink cluster => resolver.modifyBoard fun board => board.addLink cluster
  | .addGroup seq link => resolver.modifyBoard fun board => board.addGroup (Group.new seq link)
  | .setVisible id isVisible => resolver.modifyBoard fun board => board.setVisible id isVisible
  | .resolve id => (resolver.resolve id).2
  | .act action => resolver.act action

def moveAll (resolver : Resolver) (moves : List Move) : Resolver := moves.foldl move resolver

theorem Exclusive.move (h : resolver.Exclusive id) (move : Move)
    (hmiss : move.asksFor id → resolver.isHitWhileBusy id = false) :
    (resolver.move move).Exclusive id := by
  cases move with
  | addLink cluster => exact h.of_eq rfl rfl
  | addGroup seq link =>
    refine ⟨h.count_le, fun hid => ?_⟩
    -- A claimed group has its place already, and the new one comes after it.
    have hclaimed := h.claimed hid
    obtain ⟨group, hgroup, -⟩ := Option.map_eq_some_iff.mp hclaimed
    have hlt := (List.getElem?_eq_some_iff.mp hgroup).1
    refine Eq.trans ?_ hclaimed
    show (Board.addGroup _ _).resolution? id = _
    unfold Board.resolution? Board.addGroup
    rw [List.getElem?_append_left hlt]
  | setVisible other isVisible =>
    refine h.of_eq rfl ?_
    show (Board.setVisible _ _ _).resolution? id = _
    unfold Board.resolution?
    rw [Board.groups_setVisible]
    split
    · rw [Option.map_map]
      rfl
    · rfl
  | resolve other =>
    refine h.resolves (resolver.resolves other) fun hid => hmiss ?_
    simp [Move.asksFor, hid]
  | act action => exact h.act action

theorem Exclusive.moveAll (h : resolver.Exclusive id) (moves : List Move)
    (hmiss : ∀ (i : Nat) (hi : i < moves.length), moves[i].asksFor id →
      (resolver.moveAll (moves.take i)).isHitWhileBusy id = false) :
    (resolver.moveAll moves).Exclusive id := by
  induction moves generalizing resolver with
  | nil => exact h
  | cons first rest ih =>
    refine ih (h.move first fun hfirst => hmiss 0 (by simp) hfirst) fun i hi hasks => ?_
    exact hmiss (i + 1) (by simpa using hi) hasks

/-- Whatever is done with a resolver and its groups, a group never has more than
one job, and it cannot be claimed as long as it has one, unless its title was once
asked for and found in the cache although a job of it had not ended. -/
theorem count_jobs_le_one (config : ResolverConfig) (rules : Rules) (network : Network)
    (metrics : Metrics) (id : GroupId) (moves : List Move)
    (hmiss : ∀ (i : Nat) (hi : i < moves.length), moves[i].asksFor id →
      ((new config rules network metrics).moveAll (moves.take i)).isHitWhileBusy id = false) :
    let resolver := (new config rules network metrics).moveAll moves
    resolver.pool.jobs.count id ≤ 1 ∧
      (id ∈ resolver.pool.jobs → resolver.desk.board.begin? id = none) := by
  intro resolver
  have hnew : (new config rules network metrics).Exclusive id :=
    exclusive_of_not_mem List.not_mem_nil
  have hexclusive := hnew.moveAll moves hmiss
  exact ⟨hexclusive.count_le, fun hid => Board.begin?_eq_none (hexclusive.claimed hid)⟩

/-- The answers come only when they are released, and are failures. -/
def heldFailures : Network := fun _ => ⟨true, .error .offline⟩

/-- A group asks for its title, and while the answer is held another resolver
stores one. -/
def storedMeanwhile : List Move := [
  .addLink (.new "http://x.test/a"),
  .addGroup 1 0,
  .setVisible 0 true,
  .resolve 0,
  .act .work,
  .act (.put "http://x.test/a" "A")]

theorem count_jobs_le_one_storedMeanwhile :
    let resolver := (new .default .empty heldFailures .unused).moveAll
      (storedMeanwhile ++ [.act .clear, .resolve 0])
    resolver.pool.jobs = [0] ∧ resolver.pool.jobs.count 0 ≤ 1 ∧
      (0 ∈ resolver.pool.jobs → resolver.desk.board.begin? 0 = none) :=
  ⟨by decide +kernel,
    count_jobs_le_one .default .empty heldFailures .unused 0 _ (by decide +kernel)⟩

/-- A title found in the cache while a job waits lets the group have a second job. -/
theorem jobs_storedMeanwhile :
    ((new .default .empty heldFailures .unused).moveAll
      (storedMeanwhile ++ [.resolve 0, .act .clear, .resolve 0])).pool.jobs = [0, 0] := by
  decide +kernel

end Resolver

end LinkDigest
