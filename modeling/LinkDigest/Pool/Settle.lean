import LinkDigest.Pool.Basic

/-!
# Settling

A pool works until nothing can go on. Every task uses up a turn; what it adds
is bounded by the queue and by the gates opened in advance, so this ends.
-/

namespace LinkDigest.Pool

variable {α : Type}

/-- The sum of what turns can lead to. -/
def turnWork : List (Turn α) → Nat
  | [] => 0
  | turn :: rest => turn.work + turnWork rest

/-- A bound for the tasks to be done. -/
def work (pool : Pool α) : Nat :=
  4 * pool.queue.length + 3 * pool.passes.length + turnWork pool.turns

theorem turnWork_append (xs ys : List (Turn α)) :
    turnWork (xs ++ ys) = turnWork xs + turnWork ys := by
  induction xs with
  | nil => simp [turnWork]
  | cons turn rest ih =>
    simp only [List.cons_append, turnWork, ih]
    omega

theorem turnWork_following (pool : Pool α) : turnWork pool.following ≤ 1 := by
  unfold following
  split <;> simp [turnWork, Turn.work]

theorem work_finish_le (pool : Pool α) : pool.finish.work ≤ pool.work + 1 := by
  unfold finish
  split <;> simp [work, turnWork, Turn.work]
  omega

theorem work_park_le (pool : Pool α) (job : α) (gate : Option String) :
    (pool.park job gate).work ≤ pool.work := by
  unfold park
  split
  · rename_i pass found
    have hmem : pass ∈ pool.passes := List.mem_of_find?_eq_some found
    have hlen : (pool.passes.eraseP fun known => known = pass).length = pool.passes.length - 1 :=
      List.length_eraseP_of_mem hmem (by simp)
    have hpos : 0 < pool.passes.length := List.length_pos_of_mem hmem
    simp only [work, hlen, turnWork, Turn.work]
    omega
  · simp [work]

theorem work_after_le (pool : Pool α) (job : α) (progress : Progress) :
    (pool.after job progress).work ≤ pool.work + 1 := by
  cases progress with
  | finished => exact work_finish_le pool
  | waits gate => exact Nat.le_succ_of_le (work_park_le pool job gate)

theorem work_of_nextOf {pool next : Pool α} {turns : List (Turn α)} {task : Task α}
    (h : pool.nextOf turns = some (task, next)) :
    next.work + 2 ≤ 4 * pool.queue.length + 3 * pool.passes.length + turnWork turns := by
  induction turns with
  | nil => simp [nextOf] at h
  | cons turn rest ih =>
    cases turn with
    | resume job =>
      simp only [nextOf, Option.some.injEq, Prod.mk.injEq] at h
      obtain ⟨_, rfl⟩ := h
      simp [work, turnWork, Turn.work]
      omega
    | take =>
      simp only [nextOf] at h
      split at h
      · rename_i job queue hqueue _
        simp only [Option.some.injEq, Prod.mk.injEq] at h
        obtain ⟨_, rfl⟩ := h
        have hfollow := turnWork_following pool
        simp only [work, turnWork_append, hqueue, List.length_cons]
        simp only [turnWork, Turn.work] at hfollow ⊢
        omega
      · have := ih h
        simp only [turnWork, Turn.work] at this ⊢
        omega

theorem work_of_next? {pool next : Pool α} {task : Task α}
    (h : pool.next? = some (task, next)) : next.work + 2 ≤ pool.work := work_of_nextOf h

/-- The pool and what its jobs work on when nothing can go on. -/
def settle {σ : Type} (perform : Task α → σ → σ × Progress) (pool : Pool α) (state : σ) :
    Pool α × σ :=
  match _next : pool.next? with
  | none => ({ pool with turns := [] }, state)
  | some (task, next) =>
    let result := perform task state
    settle perform (next.after task.job result.2) result.1
termination_by pool.work
decreasing_by
  have hafter := work_after_le next task.job (perform task state).2
  have hnext := work_of_next? _next
  omega

end LinkDigest.Pool
