import LinkDigest.Pool.Settle
import Mathlib.Data.List.Perm.Basic
import Mathlib.Data.List.Rotate

/-!
# The jobs of a pool

A job that was accepted is in one place of the pool until it is finished: in the
queue, among those that wait, or among those that may go on. What moves it from
place to place keeps the jobs as they are, up to their order.
-/

namespace LinkDigest

variable {α : Type}

/-- The job a turn goes on with, if there is one. -/
def Turn.job? : Turn α → Option α
  | take => none
  | resume job => some job

namespace Pool

/-- The jobs started and not finished. -/
def started (pool : Pool α) : List α :=
  pool.parked.map Parked.job ++ pool.turns.filterMap Turn.job?

/-- The jobs accepted and not finished. -/
def jobs (pool : Pool α) : List α := pool.queue ++ pool.started

/-- No job is queued and none is running. -/
def IsQuiet (pool : Pool α) : Prop := pool.queue.length = 0 ∧ pool.busy = 0

instance (pool : Pool α) : Decidable pool.IsQuiet := inferInstanceAs (Decidable (_ ∧ _))

theorem jobs_eq_nil_of_isQuiet {pool : Pool α} (h : pool.IsQuiet) : pool.jobs = [] := by
  obtain ⟨hlength, hbusy⟩ := h
  unfold busy at hbusy
  have hqueue : pool.queue = [] := List.length_eq_zero_iff.mp hlength
  have hparked : pool.parked = [] := List.length_eq_zero_iff.mp (by omega)
  have hturns : pool.turns.filter (fun turn => !turn.isTake) = [] :=
    List.length_eq_zero_iff.mp (by omega)
  have hresume : pool.turns.filterMap Turn.job? = [] := by
    rw [List.filterMap_eq_nil_iff]
    intro turn hturn
    have htake := List.filter_eq_nil_iff.mp hturns turn hturn
    cases turn with
    | take => rfl
    | resume job => simp [Turn.isTake] at htake
  simp [jobs, started, hqueue, hparked, hresume]

/-! ## From place to place -/

@[simp] theorem started_callWorker (pool : Pool α) : pool.callWorker.started = pool.started := by
  unfold callWorker
  split
  · rfl
  · simp [started, Turn.job?]

/-- With one job more, counted and in the queue, and a worker called. -/
def accept (pool : Pool α) (job : α) : Pool α :=
  { pool with queue := pool.queue ++ [job], pending := pool.pending + 1 }.callWorker

/-- A job is accepted where the pool is open and its queue has room, and otherwise nothing
changes: what is counted in advance is taken off again. -/
theorem attempt_eq (pool : Pool α) (job : α) : pool.attempt job =
    if pool.isShut then (.error .shut, pool)
    else if pool.capacity ≤ pool.queue.length then (.error (.full pool.capacity), pool)
    else (.ok (), pool.accept job) := by
  unfold attempt send?
  split
  · rfl
  · by_cases hroom : pool.capacity ≤ pool.queue.length
    · simp only [if_pos hroom]
      rfl
    · simp only [if_neg hroom]
      rfl

theorem attempt_of_submit {pool next : Pool α} {job : α} (h : pool.submit job = .ok next) :
    pool.attempt job = (.ok (), next) := by
  unfold submit at h
  split at h
  · rename_i hattempt
    cases h
    exact hattempt
  · cases h

/-- A job that is not accepted changes nothing. -/
theorem attempt_of_submit_error {pool : Pool α} {job : α} {error : PoolError}
    (h : pool.submit job = .error error) : pool.attempt job = (.error error, pool) := by
  unfold submit at h
  rw [attempt_eq] at h ⊢
  split
  · simp_all
  · split <;> simp_all

/-- Only an open pool whose queue has room takes a job. -/
theorem eq_accept_of_submit {pool next : Pool α} {job : α} (h : pool.submit job = .ok next) :
    pool.queue.length < pool.capacity ∧ next = pool.accept job := by
  have hattempt := attempt_of_submit h
  rw [attempt_eq] at hattempt
  split at hattempt
  · cases hattempt
  · split at hattempt
    · cases hattempt
    · cases hattempt
      exact ⟨by omega, rfl⟩

@[simp] theorem started_accept (pool : Pool α) (job : α) :
    (pool.accept job).started = pool.started := started_callWorker _

@[simp] theorem queue_accept (pool : Pool α) (job : α) :
    (pool.accept job).queue = pool.queue ++ [job] := queue_callWorker _

@[simp] theorem pending_accept (pool : Pool α) (job : α) :
    (pool.accept job).pending = pool.pending + 1 := pending_callWorker _

theorem started_submit {pool next : Pool α} {job : α} (h : pool.submit job = .ok next) :
    next.started = pool.started := by
  rw [(eq_accept_of_submit h).2, started_accept]

theorem queue_submit {pool next : Pool α} {job : α} (h : pool.submit job = .ok next) :
    next.queue = pool.queue ++ [job] := by
  rw [(eq_accept_of_submit h).2, queue_accept]

theorem jobs_submit {pool next : Pool α} {job : α} (h : pool.submit job = .ok next) :
    next.jobs.Perm (job :: pool.jobs) := by
  rw [jobs, jobs, queue_submit h, started_submit h, List.append_assoc]
  exact List.perm_middle

theorem started_release (pool : Pool α) (gate : String) :
    (pool.release gate).started.Perm pool.started := by
  unfold release
  split
  · rename_i found hfound
    have herase : pool.parked.Perm
        (found :: pool.parked.eraseP fun parked => parked.gate = some gate) := by
      obtain ⟨hgate, before, after, heq, hbefore⟩ := List.find?_eq_some_iff_append.mp hfound
      have hnone : ∀ parked ∈ before, ¬ (decide (parked.gate = some gate)) = true := by
        intro parked hmem
        simpa using hbefore parked hmem
      have hfirst : (found :: after).eraseP (fun parked => parked.gate = some gate) = after := by
        rw [List.eraseP_cons, hgate, cond_true]
      rw [heq, List.eraseP_append_right _ hnone, hfirst]
      exact List.perm_middle
    -- The job leaves its place among those that wait and comes last of all.
    simp only [started, List.filterMap_append]
    refine List.Perm.trans ?_ ((herase.map Parked.job).append_right _).symm
    rw [List.map_cons, List.cons_append, ← List.append_assoc]
    exact List.perm_append_singleton _ _
  · exact List.Perm.refl _

theorem jobs_release (pool : Pool α) (gate : String) : (pool.release gate).jobs.Perm pool.jobs := by
  rw [jobs, jobs, queue_release]
  exact (pool.started_release gate).append_left _

theorem nextOf_cases {pool next : Pool α} {turns : List (Turn α)} {task : Task α}
    (h : pool.nextOf turns = some (task, next)) :
    (∃ job, task = .start job ∧ pool.queue = job :: next.queue ∧
      next.started = ({ pool with turns := turns }).started) ∨
    (∃ job, task = .resume job ∧ next.queue = pool.queue ∧
      ({ pool with turns := turns }).started.Perm (job :: next.started)) := by
  induction turns with
  | nil => simp [nextOf] at h
  | cons turn rest ih =>
    cases turn with
    | resume job =>
      simp only [nextOf, Option.some.injEq, Prod.mk.injEq] at h
      obtain ⟨rfl, rfl⟩ := h
      refine .inr ⟨job, rfl, rfl, ?_⟩
      simp only [started, List.filterMap_cons, Turn.job?]
      exact List.perm_middle
    | take =>
      simp only [nextOf] at h
      split at h
      · rename_i job queue hqueue _
        simp only [Option.some.injEq, Prod.mk.injEq] at h
        obtain ⟨rfl, rfl⟩ := h
        have hfollowing : pool.following.filterMap Turn.job? = [] := by
          unfold following
          split <;> rfl
        refine .inl ⟨job, rfl, hqueue, ?_⟩
        simp [started, Turn.job?, hfollowing, List.filterMap_cons]
      · -- Without a job to take the turn is skipped; it was for no job.
        exact ih h

/-- What is to be done next is to start the first job of the queue or to go on
with one that was started. -/
theorem next?_cases {pool next : Pool α} {task : Task α} (h : pool.next? = some (task, next)) :
    (∃ job, task = .start job ∧ pool.queue = job :: next.queue ∧ next.started = pool.started) ∨
    (∃ job, task = .resume job ∧ next.queue = pool.queue ∧
      pool.started.Perm (job :: next.started)) := nextOf_cases h

theorem jobs_next? {pool next : Pool α} {task : Task α} (h : pool.next? = some (task, next)) :
    pool.jobs.Perm (task.job :: next.jobs) := by
  rcases next?_cases h with ⟨job, rfl, hqueue, hstarted⟩ | ⟨job, rfl, hqueue, hstarted⟩
  · rw [jobs, hqueue, ← hstarted]
    exact List.Perm.refl _
  · rw [jobs, jobs, hqueue]
    exact (hstarted.append_left _).trans List.perm_middle

theorem resumes_eq_nil_of_nextOf {pool : Pool α} {turns : List (Turn α)}
    (h : pool.nextOf turns = none) : turns.filterMap Turn.job? = [] := by
  induction turns with
  | nil => rfl
  | cons turn rest ih =>
    cases turn with
    | resume job => simp [nextOf] at h
    | take =>
      simp only [nextOf] at h
      split at h
      · cases h
      · exact ih h

/-- When nothing can go on, the turns left are for no job. -/
theorem started_of_next?_eq_none {pool : Pool α} (h : pool.next? = none) :
    ({ pool with turns := [] }).started = pool.started := by
  have hresumes := resumes_eq_nil_of_nextOf h
  simp [started, hresumes]

@[simp] theorem started_finish (pool : Pool α) : pool.finish.started = pool.started := by
  unfold finish
  split <;> rfl

theorem started_park (pool : Pool α) (job : α) (gate : Option String) :
    (pool.park job gate).started.Perm (job :: pool.started) := by
  unfold park
  split
  · simp only [started, List.filterMap_cons, Turn.job?]
    exact List.perm_middle
  · simp only [started, List.map_append, List.map_singleton]
    rw [List.append_assoc, List.singleton_append]
    exact List.perm_middle

/-- A job that has finished is gone. -/
@[simp] theorem jobs_after_finished (pool : Pool α) (job : α) :
    (pool.after job .finished).jobs = pool.jobs := by
  show pool.finish.jobs = pool.jobs
  rw [jobs, jobs, queue_finish, started_finish]

/-- A job that waits is still there. -/
theorem jobs_after_waits (pool : Pool α) (job : α) (gate : Option String) :
    (pool.after job (.waits gate)).jobs.Perm (job :: pool.jobs) := by
  show (pool.park job gate).jobs.Perm (job :: pool.jobs)
  rw [jobs, jobs, queue_park]
  exact ((pool.started_park job gate).append_left _).trans List.perm_middle

/-- With the turn that is next put off until after the others. -/
def postpone (pool : Pool α) : Pool α := { pool with turns := pool.turns.rotate 1 }

theorem started_postpone (pool : Pool α) : pool.postpone.started.Perm pool.started := by
  have hturns : pool.postpone.turns.Perm pool.turns := pool.turns.rotate_perm 1
  exact (hturns.filterMap Turn.job?).append_left _

theorem jobs_postpone (pool : Pool α) : pool.postpone.jobs.Perm pool.jobs :=
  pool.started_postpone.append_left _

theorem started_wakeAll (pool : Pool α) : pool.wakeAll.started.Perm pool.started := by
  have hresumes : (pool.parked.map fun parked => Turn.resume parked.job).filterMap Turn.job? =
      pool.parked.map Parked.job := by
    rw [List.filterMap_map, ← List.filterMap_eq_map]
    rfl
  simp only [wakeAll, started, List.map_nil, List.nil_append, List.filterMap_append, hresumes]
  exact List.perm_append_comm

theorem jobs_wakeAll (pool : Pool α) : pool.wakeAll.jobs.Perm pool.jobs :=
  pool.started_wakeAll.append_left _

/-! ## Working off -/

/-- What every task keeps holds when nothing can go on. -/
theorem settle_induction {σ : Type} {perform : Task α → σ → σ × Progress}
    {P : Pool α → σ → Prop}
    (hidle : ∀ pool state, pool.next? = none → P pool state → P { pool with turns := [] } state)
    (htask : ∀ pool state task next, pool.next? = some (task, next) → P pool state →
      P (next.after task.job (perform task state).2) (perform task state).1)
    (pool : Pool α) (state : σ) (h : P pool state) :
    P (settle perform pool state).1 (settle perform pool state).2 := by
  fun_induction settle perform pool state with
  | case1 pool state hnext => exact hidle pool state hnext h
  | case2 pool state task next hnext result ih =>
    exact ih (htask pool state task next hnext h)

end Pool

end LinkDigest
