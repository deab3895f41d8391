import LinkDigest.Proofs.Pool.Jobs
import Mathlib.Data.List.Count

/-!
# Who goes on in a pool

Turns for idle workers are the only way into the queue. There is never more than
one, it is never given while all workers are busy, and as long as a job could be
started there is one. So no more jobs run than there are workers, and a pool in
which nothing can go on has an empty queue or no idle worker.
-/

namespace LinkDigest.Pool

variable {α : Type}

/-- The number of turns for idle workers. -/
def takes (pool : Pool α) : Nat := pool.turns.countP Turn.isTake

theorem busy_eq_length_started (pool : Pool α) : pool.busy = pool.started.length := by
  have hresumes : ∀ turns : List (Turn α),
      (turns.filter fun turn => !turn.isTake).length = (turns.filterMap Turn.job?).length := by
    intro turns
    induction turns with
    | nil => rfl
    | cons turn rest ih =>
      cases turn <;> simpa [Turn.isTake, Turn.job?, List.filterMap_cons] using ih
  simp [busy, started, hresumes]

theorem busy_eq_of_perm {pool next : Pool α} (h : next.started.Perm pool.started) :
    next.busy = pool.busy := by
  rw [busy_eq_length_started, busy_eq_length_started, h.length_eq]

/-! ## What is next -/

/-- What is next is the job that the first turn is for. Turns for idle workers are
passed over only where there is nothing to take. -/
theorem nextOf_turns {pool next : Pool α} {turns : List (Turn α)} {task : Task α}
    (h : pool.nextOf turns = some (task, next)) :
    (∃ job queue rest, task = .start job ∧ pool.isShut = false ∧ pool.queue = job :: queue ∧
      turns = .take :: rest ∧
      next = { pool with
        queue := queue, pending := pool.pending - 1, turns := rest ++ pool.following }) ∨
    (∃ job skipped rest, task = .resume job ∧ turns = skipped ++ .resume job :: rest ∧
      (∀ turn ∈ skipped, turn.isTake) ∧ (skipped = [] ∨ pool.isShut ∨ pool.queue = []) ∧
      next = { pool with turns := rest }) := by
  induction turns with
  | nil => cases h
  | cons turn rest ih =>
    cases turn with
    | resume job =>
      simp only [nextOf, Option.some.injEq, Prod.mk.injEq] at h
      obtain ⟨rfl, rfl⟩ := h
      exact .inr ⟨job, [], rest, rfl, rfl, by simp, .inl rfl, rfl⟩
    | take =>
      simp only [nextOf] at h
      split at h
      · rename_i job queue hqueue hopen
        simp only [Option.some.injEq, Prod.mk.injEq] at h
        obtain ⟨rfl, rfl⟩ := h
        exact .inl ⟨job, queue, rest, rfl, hopen, hqueue, rfl, rfl⟩
      · rename_i hnothing
        have hreason : pool.isShut = true ∨ pool.queue = [] := by
          cases hqueue : pool.queue with
          | nil => exact .inr rfl
          | cons job queue =>
            refine .inl ?_
            by_contra hopen
            exact hnothing job queue hqueue (by simpa using hopen)
        rcases ih h with ⟨job, queue, _, _, hopen, hqueue, _⟩ | hresume
        · -- A job that can be started would have been taken by the turn passed over.
          exact absurd hopen (hnothing job queue hqueue)
        · obtain ⟨job, skipped, more, rfl, rfl, hskipped, -, rfl⟩ := hresume
          refine .inr ⟨job, .take :: skipped, more, rfl, rfl, ?_, .inr hreason, rfl⟩
          simpa [Turn.isTake] using hskipped

/-- When nothing can go on although there is a job to take, no worker has a turn. -/
theorem takes_eq_zero_of_next?_eq_none {pool : Pool α} (h : pool.next? = none)
    (hopen : pool.isShut = false) (hqueue : pool.queue ≠ []) : pool.takes = 0 := by
  obtain ⟨job, queue, hcons⟩ := List.exists_cons_of_ne_nil hqueue
  unfold next? at h
  unfold takes
  cases hturns : pool.turns with
  | nil => rfl
  | cons turn rest =>
    rw [hturns] at h
    cases turn with
    | resume job => cases h
    | take => simp [nextOf, hcons, hopen] at h

/-! ## What work leaves as it is -/

/-- Neither its size nor whether it is shut differs. -/
structure SameHouse (before after : Pool α) : Prop where
  workers : after.workers = before.workers
  capacity : after.capacity = before.capacity
  isShut : after.isShut = before.isShut

theorem SameHouse.trans {a b c : Pool α} (h : SameHouse a b) (h' : SameHouse b c) :
    SameHouse a c :=
  ⟨h'.workers.trans h.workers, h'.capacity.trans h.capacity, h'.isShut.trans h.isShut⟩

theorem sameHouse_accept (pool : Pool α) (job : α) : SameHouse pool (pool.accept job) := by
  unfold accept callWorker
  split <;> exact ⟨rfl, rfl, rfl⟩

theorem sameHouse_release (pool : Pool α) (gate : String) : SameHouse pool (pool.release gate) := by
  unfold release
  split <;> exact ⟨rfl, rfl, rfl⟩

theorem sameHouse_next? {pool next : Pool α} {task : Task α}
    (h : pool.next? = some (task, next)) : SameHouse pool next := by
  rcases nextOf_turns h with ⟨_, _, _, -, -, -, -, rfl⟩ | ⟨_, _, _, -, -, -, -, rfl⟩ <;>
    exact ⟨rfl, rfl, rfl⟩

theorem sameHouse_after (pool : Pool α) (job : α) (progress : Progress) :
    SameHouse pool (pool.after job progress) := by
  cases progress with
  | finished =>
    show SameHouse pool pool.finish
    unfold finish
    split <;> exact ⟨rfl, rfl, rfl⟩
  | waits gate =>
    show SameHouse pool (pool.park job gate)
    unfold park
    split <;> exact ⟨rfl, rfl, rfl⟩

/-! ## What is counted -/

/-- The jobs counted are those in the queue. -/
def IsCounted (pool : Pool α) : Prop := pool.pending = pool.queue.length

theorem IsCounted.accept {pool : Pool α} (h : pool.IsCounted) (job : α) :
    (pool.accept job).IsCounted := by
  simpa [IsCounted] using h

/-- A job is taken off the count when it is taken from the queue. -/
theorem IsCounted.next? {pool next : Pool α} (h : pool.IsCounted) {task : Task α}
    (hnext : pool.next? = some (task, next)) : next.IsCounted := by
  unfold IsCounted at h ⊢
  rcases nextOf_turns hnext with
    ⟨job, queue, rest, -, -, hqueue, -, rfl⟩ | ⟨_, _, _, -, -, -, -, rfl⟩
  · rw [hqueue, List.length_cons] at h
    simp [h]
  · exact h

/-! ## The invariant -/

/-- The turns for idle workers are as many as there should be. -/
structure Staffed (pool : Pool α) : Prop where
  takes_le : pool.takes ≤ 1
  /-- A turn is given only to a worker that is idle. -/
  takes_add_busy_le : pool.takes + pool.busy ≤ pool.workers
  /-- A job that could be started will be. -/
  attended : pool.isShut = false → pool.queue ≠ [] → pool.busy < pool.workers → 0 < pool.takes

theorem staffed_new (workers capacity : Nat) : (new workers capacity : Pool α).Staffed where
  takes_le := Nat.zero_le 1
  takes_add_busy_le := Nat.zero_le _
  attended _ hqueue := absurd rfl hqueue

theorem Staffed.busy_le {pool : Pool α} (h : pool.Staffed) : pool.busy ≤ pool.workers :=
  Nat.le_trans (Nat.le_add_left ..) h.takes_add_busy_le

variable {pool next : Pool α}

/-- What neither gives nor takes turns of idle workers, nor changes how many of them
there are, keeps the invariant. -/
theorem Staffed.of_eq (h : pool.Staffed) (hworkers : next.workers = pool.workers)
    (htakes : next.takes = pool.takes) (hbusy : next.busy = pool.busy)
    (hqueue : next.queue = pool.queue) (hopen : next.isShut = false → pool.isShut = false) :
    next.Staffed where
  takes_le := htakes ▸ h.takes_le
  takes_add_busy_le := by
    rw [htakes, hbusy, hworkers]
    exact h.takes_add_busy_le
  attended hnext hjobs hidle := by
    rw [htakes]
    rw [hqueue] at hjobs
    rw [hbusy, hworkers] at hidle
    exact h.attended (hopen hnext) hjobs hidle

theorem takes_callWorker (pool : Pool α) :
    pool.callWorker.takes = if pool.idle = 0 ∨ 0 < pool.takes then pool.takes else 1 := by
  have hany : pool.turns.any Turn.isTake ↔ 0 < pool.takes := by
    rw [List.any_eq_true, takes, List.countP_pos_iff]
  unfold callWorker
  simp only [hany]
  split
  · rfl
  · rename_i hcalled
    have hnone : pool.turns.countP Turn.isTake = 0 := Nat.eq_zero_of_not_pos (not_or.mp hcalled).2
    show (pool.turns ++ [Turn.take]).countP Turn.isTake = 1
    rw [List.countP_append, hnone]
    rfl

/-- A worker is called where one is idle and none of them has a turn. -/
theorem staffed_callWorker (htakes : pool.takes ≤ 1)
    (hroom : pool.takes + pool.busy ≤ pool.workers) : pool.callWorker.Staffed := by
  have hbusy : pool.callWorker.busy = pool.busy :=
    busy_eq_of_perm (.of_eq (started_callWorker pool))
  have hworkers : pool.callWorker.workers = pool.workers := by
    unfold callWorker
    split <;> rfl
  have hidle : pool.idle = pool.workers - pool.busy := rfl
  refine ⟨?_, ?_, fun _ _ hmore => ?_⟩
  · rw [takes_callWorker]
    split <;> omega
  · rw [takes_callWorker, hbusy, hworkers]
    split <;> omega
  · rw [takes_callWorker]
    split <;> omega

/-- The queue is longer by the job, but as many have been called as before. -/
theorem Staffed.accept (h : pool.Staffed) (job : α) : (pool.accept job).Staffed := by
  have htakes : Pool.takes
      { pool with queue := pool.queue ++ [job], pending := pool.pending + 1 } ≤ 1 := h.takes_le
  exact staffed_callWorker htakes h.takes_add_busy_le

@[simp] theorem takes_release (pool : Pool α) (gate : String) :
    (pool.release gate).takes = pool.takes := by
  unfold release
  split
  · simp [takes, Turn.isTake]
  · rfl

theorem Staffed.release (h : pool.Staffed) (gate : String) : (pool.release gate).Staffed := by
  have hhouse := pool.sameHouse_release gate
  refine h.of_eq hhouse.workers (pool.takes_release gate)
    (busy_eq_of_perm (pool.started_release gate)) ?_ fun hopen => hhouse.isShut ▸ hopen
  unfold Pool.release
  split <;> rfl

theorem Staffed.wakeAll (h : pool.Staffed) : pool.wakeAll.Staffed := by
  refine h.of_eq rfl ?_ (busy_eq_of_perm pool.started_wakeAll) rfl id
  have hresumes :
      (pool.parked.map fun parked => Turn.resume parked.job).countP Turn.isTake = 0 := by
    simp [List.countP_map, Function.comp_def, Turn.isTake]
  simp only [Pool.wakeAll, takes, List.countP_append, hresumes, Nat.add_zero]

theorem Staffed.postpone (h : pool.Staffed) : pool.postpone.Staffed := by
  refine h.of_eq rfl ?_ (busy_eq_of_perm pool.started_postpone) rfl id
  exact (pool.turns.rotate_perm 1).countP_eq _

theorem Staffed.shutdown (h : pool.Staffed) : pool.shutdown.Staffed :=
  h.of_eq rfl rfl rfl rfl fun hopen => nomatch hopen

theorem Staffed.idle (h : pool.Staffed) (hnext : pool.next? = none) :
    Staffed { pool with turns := [] } := by
  have hbusy : ({ pool with turns := [] } : Pool α).busy = pool.busy :=
    busy_eq_of_perm (.of_eq (started_of_next?_eq_none hnext))
  refine ⟨Nat.zero_le 1, ?_, fun hopen hqueue hidle => ?_⟩
  · rw [hbusy]
    exact Nat.le_trans (Nat.zero_add _).le h.busy_le
  · rw [hbusy] at hidle
    have hsome := h.attended hopen hqueue hidle
    rw [takes_eq_zero_of_next?_eq_none hnext hopen hqueue] at hsome
    exact absurd hsome (Nat.lt_irrefl 0)

/-! ## One task -/

/-- While a task is done, its worker has neither a turn nor another job, and any
other idle worker has its turn if there is a job to take. -/
structure Working (pool : Pool α) : Prop where
  takes_le : pool.takes ≤ 1
  takes_add_busy_lt : pool.takes + pool.busy < pool.workers
  attended : pool.isShut = false → pool.queue ≠ [] → pool.busy + 1 < pool.workers → 0 < pool.takes

theorem Working.busy_lt (h : pool.Working) : pool.busy < pool.workers :=
  Nat.lt_of_le_of_lt (Nat.le_add_left ..) h.takes_add_busy_lt

theorem takes_following (pool : Pool α) :
    pool.following.countP Turn.isTake = if 2 ≤ pool.idle then 1 else 0 := by
  unfold following
  split <;> rfl

/-- The worker that takes a job leaves its turn to another idle one. -/
theorem Staffed.takeJob (h : pool.Staffed) {queue : List α} {rest : List (Turn α)}
    (hturns : pool.turns = .take :: rest)
    (hnext : next = { pool with
      queue := queue, pending := pool.pending - 1, turns := rest ++ pool.following })
    (hstarted : next.started = pool.started) : next.Working := by
  obtain ⟨htakes, hroom, -⟩ := h
  have hcount : pool.takes = rest.countP Turn.isTake + 1 := by
    rw [takes, hturns]
    exact List.countP_cons_of_pos rfl
  have hnone : rest.countP Turn.isTake = 0 := by omega
  have hbusy : next.busy = pool.busy := busy_eq_of_perm (.of_eq hstarted)
  have hafter : next.takes = if 2 ≤ pool.workers - pool.busy then 1 else 0 := by
    rw [hnext]
    show (rest ++ pool.following).countP Turn.isTake = _
    rw [List.countP_append, takes_following, hnone, Nat.zero_add]
    rfl
  have hworkers : next.workers = pool.workers := by rw [hnext]
  refine ⟨?_, ?_, fun _ _ hidle => ?_⟩
  · rw [hafter]
    split <;> omega
  · rw [hafter, hbusy, hworkers]
    split <;> omega
  · rw [hbusy, hworkers] at hidle
    rw [hafter, if_pos (by omega)]
    exact Nat.zero_lt_one

/-- A job that goes on has had its worker all the time. -/
theorem Staffed.resumeJob (h : pool.Staffed) {job : α} {skipped rest : List (Turn α)}
    (hturns : pool.turns = skipped ++ .resume job :: rest)
    (hreason : skipped = [] ∨ pool.isShut ∨ pool.queue = [])
    (hnext : next = { pool with turns := rest })
    (hstarted : pool.started.Perm (job :: next.started)) : next.Working := by
  obtain ⟨htakes, hroom, hattended⟩ := h
  have hcount : pool.takes = skipped.countP Turn.isTake + rest.countP Turn.isTake := by
    rw [takes, hturns, List.countP_append]
    exact congrArg _ (List.countP_cons_of_neg nofun)
  have hafter : next.takes = rest.countP Turn.isTake := by
    rw [hnext]
    rfl
  have hbusy : next.busy + 1 = pool.busy := by
    rw [busy_eq_length_started, busy_eq_length_started, hstarted.length_eq, List.length_cons]
  have hworkers : next.workers = pool.workers := by rw [hnext]
  refine ⟨by omega, by omega, fun hopen hqueue hidle => ?_⟩
  subst hnext
  have hnone : skipped = [] := by
    refine hreason.resolve_right ?_
    rintro (hshut | hempty)
    · exact absurd (hopen.symm.trans hshut) Bool.false_ne_true
    · exact hqueue hempty
  have hsome := hattended hopen hqueue (hbusy ▸ hidle)
  rw [hnone, List.countP_nil] at hcount
  omega

theorem Staffed.next? (h : pool.Staffed) {task : Task α} (hnext : pool.next? = some (task, next)) :
    next.Working := by
  rcases nextOf_turns hnext with ⟨job, queue, rest, rfl, -, -, hturns, heq⟩ |
    ⟨job, skipped, rest, rfl, hturns, -, hreason, heq⟩
  · rcases next?_cases hnext with ⟨_, -, -, hstarted⟩ | ⟨_, hother, -⟩
    · exact h.takeJob hturns heq hstarted
    · cases hother
  · rcases next?_cases hnext with ⟨_, hother, -⟩ | ⟨_, hsame, -, hstarted⟩
    · cases hother
    · cases hsame
      exact h.resumeJob hturns hreason heq hstarted

theorem Working.after (h : pool.Working) (job : α) (progress : Progress) :
    (pool.after job progress).Staffed := by
  obtain ⟨htakes, hroom, hattended⟩ := h
  obtain ⟨hworkers, -, hshut⟩ := pool.sameHouse_after job progress
  cases progress with
  | finished =>
    -- The worker looks into the queue itself unless there is another idle one.
    have hbusy : pool.finish.busy = pool.busy := busy_eq_of_perm (.of_eq (started_finish pool))
    have htakesAfter : pool.finish.takes =
        pool.takes + if pool.workers - pool.busy = 1 then 1 else 0 := by
      show _ = pool.takes + if pool.idle = 1 then 1 else 0
      unfold finish
      split
      · exact List.countP_cons_of_pos rfl
      · rfl
    change pool.finish.workers = pool.workers at hworkers
    change pool.finish.isShut = pool.isShut at hshut
    show pool.finish.Staffed
    refine ⟨?_, ?_, fun hopen hqueue hmore => ?_⟩
    · rw [htakesAfter]
      split <;> omega
    · rw [htakesAfter, hbusy, hworkers]
      split <;> omega
    · rw [hbusy, hworkers] at hmore
      rw [htakesAfter]
      split
      · omega
      · have hsome := hattended (hshut ▸ hopen) (pool.queue_finish ▸ hqueue) (by omega)
        omega
  | waits gate =>
    have hbusy : (pool.park job gate).busy = pool.busy + 1 := by
      rw [busy_eq_length_started, busy_eq_length_started, (pool.started_park job gate).length_eq,
        List.length_cons]
    have htakesAfter : (pool.park job gate).takes = pool.takes := by
      unfold park
      split
      · exact List.countP_cons_of_neg nofun
      · rfl
    change (pool.park job gate).workers = pool.workers at hworkers
    change (pool.park job gate).isShut = pool.isShut at hshut
    show (pool.park job gate).Staffed
    refine ⟨htakesAfter ▸ htakes, ?_, fun hopen hqueue hmore => ?_⟩
    · rw [htakesAfter, hbusy, hworkers]
      omega
    · rw [hbusy, hworkers] at hmore
      rw [htakesAfter]
      exact hattended (hshut ▸ hopen) (pool.queue_park job gate ▸ hqueue) hmore

/-- When nothing can go on, no job is queued or every worker has one that waits. -/
theorem Staffed.queue_or_parked (h : pool.Staffed) (hturns : pool.turns = [])
    (hopen : pool.isShut = false) : pool.queue = [] ∨ pool.parked.length = pool.workers := by
  have htakes : pool.takes = 0 := by rw [takes, hturns, List.countP_nil]
  have hbusy : pool.busy = pool.parked.length := by simp [busy, hturns]
  by_cases hqueue : pool.queue = []
  · exact .inl hqueue
  · right
    have hle := h.busy_le
    by_contra hidle
    have hsome := h.attended hopen hqueue (by omega)
    omega

end LinkDigest.Pool
