import LinkDigest.Pool.Errand
import LinkDigest.Proofs.Pool.Staffing

/-!
# A pool at work

Whatever is done with a pool and whatever its jobs do: jobs start in the order in
which they were accepted, none twice, and never more at a time than there are
workers. The jobs pending are those accepted and not started. Once the pool is shut
none starts any more.
-/

namespace LinkDigest

variable {α σ : Type}

/-! ## Notes -/

/-- What is noted of a job. -/
inductive JobNote (α : Type) where
  | started (job : α)
  | ended (job : α)
deriving DecidableEq, Repr

namespace JobNote

def start? : JobNote α → Option α
  | started job => some job
  | ended _ => none

def end? : JobNote α → Option α
  | started _ => none
  | ended job => some job

/-- What is noted of a task that came so far. -/
def ofTask : Task α → Progress → List (JobNote α)
  | .start job, .finished => [started job, ended job]
  | .start job, .waits _ => [started job]
  | .resume job, .finished => [ended job]
  | .resume _, .waits _ => []

end JobNote

/-- The jobs that were started, in that order. -/
def startedJobs (notes : List (JobNote α)) : List α := notes.filterMap JobNote.start?

/-- The jobs that have ended, in that order. -/
def endedJobs (notes : List (JobNote α)) : List α := notes.filterMap JobNote.end?

/-- What a task does, and it is noted. -/
def noting (perform : Task α → σ → σ × Progress) (task : Task α)
    (book : σ × List (JobNote α)) : (σ × List (JobNote α)) × Progress :=
  let result := perform task book.1
  ((result.1, book.2 ++ JobNote.ofTask task result.2), result.2)

/-- Taking notes changes nothing. -/
theorem Pool.settle_noting (perform : Task α → σ → σ × Progress) (pool : Pool α) (state : σ)
    (notes : List (JobNote α)) :
    (pool.settle (noting perform) (state, notes)).1 = (pool.settle perform state).1 ∧
      (pool.settle (noting perform) (state, notes)).2.1 = (pool.settle perform state).2 := by
  fun_induction Pool.settle perform pool state generalizing notes with
  | case1 pool state hnext =>
    rw [Pool.settle]
    split
    · exact ⟨rfl, rfl⟩
    · rename_i hsome
      rw [hnext] at hsome
      cases hsome
  | case2 pool state task next hnext result ih =>
    rw [Pool.settle]
    split
    · rename_i hnone
      rw [hnext] at hnone
      cases hnone
    · rename_i task' next' hsome
      rw [hnext, Option.some.injEq, Prod.mk.injEq] at hsome
      obtain ⟨rfl, rfl⟩ := hsome
      exact ih _

/-- When nothing can go on, nobody has a turn. -/
theorem Pool.turns_settle (perform : Task α → σ → σ × Progress) (pool : Pool α) (state : σ) :
    (pool.settle perform state).1.turns = [] := by
  fun_induction Pool.settle perform pool state with
  | case1 => rfl
  | case2 pool state task next hnext result ih => exact ih

/-! ## Shifts -/

/-- A pool at work: what its jobs work on, the jobs it has accepted, and what was
noted of them. -/
structure Shift (α σ : Type) where
  pool : Pool α
  state : σ
  accepted : List α
  notes : List (JobNote α)

namespace Shift

/-- A pool that has not been given anything to do. -/
def start (workers capacity : Nat) (state : σ) : Shift α σ :=
  ⟨.new workers capacity, state, [], []⟩

/-- What can be done with a pool. -/
inductive Action (α : Type) where
  | submit (job : α)
  | release (gate : String)
  /-- All waiting is over. -/
  | wakeAll
  /-- One task is done. -/
  | work
  /-- What is to be done next is put off until after the rest. -/
  | postpone
  /-- All is done that can be. -/
  | settle
  | shutdown
deriving DecidableEq

def Action.isShutdown : Action α → Bool
  | shutdown => true
  | submit _ | release _ | wakeAll | work | postpone | settle => false

/-- With the next task done, if there is one. -/
def workOnce (perform : Task α → σ → σ × Progress) (shift : Shift α σ) : Shift α σ :=
  match shift.pool.next? with
  | none => { shift with pool := { shift.pool with turns := [] } }
  | some (task, next) =>
    let result := perform task shift.state
    { shift with
      pool := next.after task.job result.2
      state := result.1
      notes := shift.notes ++ JobNote.ofTask task result.2 }

/-- With a job submitted. -/
def submit (shift : Shift α σ) (job : α) : Shift α σ :=
  match shift.pool.attempt job with
  | (.ok (), pool) => { shift with pool := pool, accepted := shift.accepted ++ [job] }
  | (.error _, pool) => { shift with pool := pool }

def act (perform : Task α → σ → σ × Progress) (shift : Shift α σ) : Action α → Shift α σ
  | .submit job => shift.submit job
  | .release gate => { shift with pool := shift.pool.release gate }
  | .wakeAll => { shift with pool := shift.pool.wakeAll }
  | .work => shift.workOnce perform
  | .postpone => { shift with pool := shift.pool.postpone }
  | .settle =>
    let settled := shift.pool.settle perform shift.state
    { shift with
      pool := settled.1
      state := settled.2
      notes := (shift.pool.settle (noting perform) (shift.state, shift.notes)).2.2 }
  | .shutdown => { shift with pool := shift.pool.shutdown }

def run (perform : Task α → σ → σ × Progress) (shift : Shift α σ) (actions : List (Action α)) :
    Shift α σ :=
  actions.foldl (act perform) shift

/-- A job is accepted where the pool is open and its queue has room, and otherwise nothing
changes. -/
theorem submit_eq (shift : Shift α σ) (job : α) : shift.submit job =
    if shift.pool.isShut ∨ shift.pool.capacity ≤ shift.pool.queue.length then shift
    else { shift with pool := shift.pool.accept job, accepted := shift.accepted ++ [job] } := by
  unfold submit
  rw [Pool.attempt_eq]
  by_cases hshut : shift.pool.isShut
  · simp [hshut]
  · by_cases hroom : shift.pool.capacity ≤ shift.pool.queue.length <;> simp [hshut, hroom]

variable {perform : Task α → σ → σ × Progress} {P : Shift α σ → Prop}

/-- What every task keeps holds when nothing can go on. -/
theorem settle_induction (hwork : ∀ shift, P shift → P (shift.workOnce perform))
    (shift : Shift α σ) (h : P shift) : P (shift.act perform .settle) := by
  have hsettled := @Pool.settle_induction α (σ × List (JobNote α)) (noting perform)
    (fun pool book => P ⟨pool, book.1, shift.accepted, book.2⟩) ?_ ?_ shift.pool
      (shift.state, shift.notes) h
  · obtain ⟨hpool, hstate⟩ := shift.pool.settle_noting perform shift.state shift.notes
    rw [hpool, hstate] at hsettled
    exact hsettled
  · intro pool book hnext hbook
    have hidle := hwork _ hbook
    simp only [workOnce, hnext] at hidle
    exact hidle
  · intro pool book task next hnext hbook
    have htask := hwork _ hbook
    simp only [workOnce, hnext] at htask
    exact htask

/-- What every action keeps holds after any number of them. -/
theorem run_induction (hact : ∀ shift action, P shift → P (shift.act perform action))
    (actions : List (Action α)) (shift : Shift α σ) (h : P shift) :
    P (shift.run perform actions) := by
  unfold run
  induction actions generalizing shift with
  | nil => exact h
  | cons action rest ih => exact ih _ (hact shift action h)

/-! ## What a task does to the jobs -/

section

variable {pool next : Pool α} {task : Task α} (hnext : pool.next? = some (task, next))
  (progress : Progress)

include hnext

/-- The jobs a task starts come from the front of the queue. -/
theorem queue_after : pool.queue =
    startedJobs (JobNote.ofTask task progress) ++ (next.after task.job progress).queue := by
  rw [next.queue_after]
  rcases Pool.next?_cases hnext with ⟨job, rfl, hstarts, -⟩ | ⟨job, rfl, hsame, -⟩
  · rw [hstarts]
    cases progress <;> rfl
  · rw [hsame]
    cases progress <;> rfl

/-- What is started or was under way has ended or is under way. -/
theorem started_after : (startedJobs (JobNote.ofTask task progress) ++ pool.started).Perm
    (endedJobs (JobNote.ofTask task progress) ++ (next.after task.job progress).started) := by
  have hjob : (startedJobs (JobNote.ofTask task progress) ++ pool.started).Perm
      (task.job :: next.started) := by
    rcases Pool.next?_cases hnext with ⟨job, rfl, -, hsame⟩ | ⟨job, rfl, -, hstarted⟩
    · rw [hsame]
      cases progress <;> exact .refl _
    · cases progress <;> exact hstarted
  refine hjob.trans ?_
  cases progress with
  | finished =>
    have hended : endedJobs (JobNote.ofTask task .finished) = [task.job] := by
      cases task <;> rfl
    have hsame : (next.after task.job .finished).started = next.started := next.started_finish
    rw [hended, hsame]
    exact .refl _
  | waits gate =>
    have hended : endedJobs (JobNote.ofTask task (.waits gate)) = [] := by
      cases task <;> rfl
    rw [hended]
    exact (next.started_park task.job gate).symm

end

/-! ## No more jobs than workers -/

/-- At no time are more jobs under way than so many. -/
def RunAtMost (workers : Nat) (notes : List (JobNote α)) : Prop :=
  ∀ earlier, earlier <+: notes → (startedJobs earlier).length ≤ (endedJobs earlier).length + workers

theorem runAtMost_nil (workers : Nat) : RunAtMost workers ([] : List (JobNote α)) := by
  intro earlier h
  rw [List.prefix_nil.mp h]
  exact Nat.zero_le _

theorem runAtMost_concat {workers : Nat} {notes : List (JobNote α)} {note : JobNote α}
    (h : RunAtMost workers notes)
    (hlast : (startedJobs (notes ++ [note])).length ≤
      (endedJobs (notes ++ [note])).length + workers) : RunAtMost workers (notes ++ [note]) := by
  intro earlier hearlier
  rcases List.prefix_concat_iff.mp hearlier with rfl | hbefore
  · exact hlast
  · exact h earlier hbefore

@[simp] theorem startedJobs_append (xs ys : List (JobNote α)) :
    startedJobs (xs ++ ys) = startedJobs xs ++ startedJobs ys := List.filterMap_append

@[simp] theorem endedJobs_append (xs ys : List (JobNote α)) :
    endedJobs (xs ++ ys) = endedJobs xs ++ endedJobs ys := List.filterMap_append

/-- A job that ends makes room. -/
theorem RunAtMost.ended {workers : Nat} {notes : List (JobNote α)} (h : RunAtMost workers notes)
    (job : α) : RunAtMost workers (notes ++ [.ended job]) := by
  refine runAtMost_concat h ?_
  have hnotes := h notes List.prefix_rfl
  simp only [startedJobs_append, endedJobs_append, List.length_append]
  show _ + 0 ≤ _ + 1 + workers
  omega

/-- A job may start where there is room for it. -/
theorem RunAtMost.started {workers : Nat} {notes : List (JobNote α)} (h : RunAtMost workers notes)
    (hroom : (startedJobs notes).length < (endedJobs notes).length + workers) (job : α) :
    RunAtMost workers (notes ++ [.started job]) := by
  refine runAtMost_concat h ?_
  simp only [startedJobs_append, endedJobs_append, List.length_append]
  show _ + 1 ≤ _ + 0 + workers
  omega

theorem RunAtMost.ofTask {workers : Nat} {notes : List (JobNote α)} (h : RunAtMost workers notes)
    {task : Task α} (hroom : task = .start task.job →
      (startedJobs notes).length < (endedJobs notes).length + workers) (progress : Progress) :
    RunAtMost workers (notes ++ JobNote.ofTask task progress) := by
  cases task with
  | start job =>
    have hstarted := h.started (hroom rfl) job
    cases progress with
    | finished =>
      have hended := hstarted.ended job
      rw [List.append_assoc] at hended
      exact hended
    | waits gate => exact hstarted
  | resume job =>
    cases progress with
    | finished => exact h.ended job
    | waits gate =>
      show RunAtMost workers (notes ++ [])
      rwa [List.append_nil]

/-! ## The invariant -/

/-- What a pool with so many workers and so many places in its queue has done. -/
structure Orderly (workers capacity : Nat) (shift : Shift α σ) : Prop where
  /-- Jobs were started in the order in which they were accepted; the others are queued. -/
  accepted_eq : shift.accepted = startedJobs shift.notes ++ shift.pool.queue
  /-- A job that was started has ended or is under way. -/
  started_perm : (startedJobs shift.notes).Perm (endedJobs shift.notes ++ shift.pool.started)
  runAtMost : RunAtMost workers shift.notes
  /-- The jobs counted are those accepted and not started. -/
  pending_eq : shift.pool.pending + (startedJobs shift.notes).length = shift.accepted.length
  pending_le : shift.pool.pending ≤ capacity

/-- What keeps the jobs of a pool in order. -/
structure Manned (workers capacity : Nat) (shift : Shift α σ) : Prop where
  accepted_eq : shift.accepted = startedJobs shift.notes ++ shift.pool.queue
  started_perm : (startedJobs shift.notes).Perm (endedJobs shift.notes ++ shift.pool.started)
  runAtMost : RunAtMost workers shift.notes
  queue_le : shift.pool.queue.length ≤ capacity
  isCounted : shift.pool.IsCounted
  staffed : shift.pool.Staffed
  workers_eq : shift.pool.workers = workers
  capacity_eq : shift.pool.capacity = capacity

variable {workers capacity : Nat} {shift : Shift α σ}

theorem Manned.orderly (h : shift.Manned workers capacity) : shift.Orderly workers capacity where
  accepted_eq := h.accepted_eq
  started_perm := h.started_perm
  runAtMost := h.runAtMost
  pending_eq := by
    rw [h.accepted_eq, List.length_append, Nat.add_comm, h.isCounted]
  pending_le := h.isCounted ▸ h.queue_le

theorem manned_start (workers capacity : Nat) (state : σ) :
    (start workers capacity state : Shift α σ).Manned (max 1 workers) (max 1 capacity) where
  accepted_eq := rfl
  started_perm := .refl _
  runAtMost := runAtMost_nil _
  queue_le := Nat.zero_le _
  isCounted := rfl
  staffed := Pool.staffed_new workers capacity
  workers_eq := rfl
  capacity_eq := rfl

/-- What moves jobs but neither starts nor ends any keeps them in order. -/
theorem Manned.of_pool (h : shift.Manned workers capacity) {pool : Pool α}
    (hqueue : pool.queue = shift.pool.queue) (hpending : pool.pending = shift.pool.pending)
    (hstarted : pool.started.Perm shift.pool.started) (hstaffed : pool.Staffed)
    (hworkers : pool.workers = shift.pool.workers)
    (hcapacity : pool.capacity = shift.pool.capacity) :
    Manned workers capacity { shift with pool := pool } where
  accepted_eq := hqueue ▸ h.accepted_eq
  started_perm := h.started_perm.trans (hstarted.symm.append_left _)
  runAtMost := h.runAtMost
  queue_le := hqueue ▸ h.queue_le
  isCounted := hpending.trans (hqueue ▸ h.isCounted)
  staffed := hstaffed
  workers_eq := hworkers.trans h.workers_eq
  capacity_eq := hcapacity.trans h.capacity_eq

theorem Manned.workOnce (h : shift.Manned workers capacity)
    (perform : Task α → σ → σ × Progress) : (shift.workOnce perform).Manned workers capacity := by
  unfold Shift.workOnce
  cases hnext : shift.pool.next? with
  | none =>
    refine h.of_pool rfl rfl ?_ (h.staffed.idle hnext) rfl rfl
    rw [Pool.started_of_next?_eq_none hnext]
  | some found =>
    obtain ⟨task, next⟩ := found
    have hworking := h.staffed.next? hnext
    simp only
    generalize perform task shift.state = result
    have hqueue := queue_after hnext result.2
    have hstarted := started_after hnext result.2
    have hhouse := (Pool.sameHouse_next? hnext).trans (next.sameHouse_after task.job result.2)
    have hcount := h.started_perm.length_eq
    rw [List.length_append, ← Pool.busy_eq_length_started] at hcount
    have hcounted : (next.after task.job result.2).IsCounted := by
      simpa [Pool.IsCounted] using h.isCounted.next? hnext
    refine ⟨?_, ?_, h.runAtMost.ofTask (fun hstart => ?_) result.2, ?_, hcounted,
      hworking.after task.job result.2, hhouse.workers.trans h.workers_eq,
      hhouse.capacity.trans h.capacity_eq⟩
    · show shift.accepted = startedJobs (_ ++ _) ++ _
      simpa [hqueue] using h.accepted_eq
    · show (startedJobs (_ ++ _)).Perm (endedJobs (_ ++ _) ++ _)
      rw [startedJobs_append, endedJobs_append, List.append_assoc]
      refine (h.started_perm.append_right _).trans ?_
      rw [List.append_assoc]
      exact (List.perm_append_comm.trans hstarted).append_left _
    · -- The worker that takes the job is one that was idle.
      have hbusy : next.busy = shift.pool.busy := by
        rcases Pool.next?_cases hnext with ⟨_, _, _, hsame⟩ | ⟨_, rfl, _, _⟩
        · rw [Pool.busy_eq_length_started, Pool.busy_eq_length_started, hsame]
        · cases hstart
      have hroom := hworking.busy_lt
      rw [(Pool.sameHouse_next? hnext).workers, h.workers_eq, hbusy] at hroom
      omega
    · have hlength := congrArg List.length hqueue
      rw [List.length_append] at hlength
      have hroom := h.queue_le
      show (next.after task.job result.2).queue.length ≤ capacity
      omega

theorem Manned.accept (h : shift.Manned workers capacity) (job : α)
    (hroom : shift.pool.queue.length < capacity) :
    Manned workers capacity
      { shift with pool := shift.pool.accept job, accepted := shift.accepted ++ [job] } where
  accepted_eq := by
    rw [Pool.queue_accept, ← List.append_assoc, ← h.accepted_eq]
  started_perm := by
    rw [Pool.started_accept]
    exact h.started_perm
  runAtMost := h.runAtMost
  queue_le := by
    rw [Pool.queue_accept, List.length_append]
    exact hroom
  isCounted := h.isCounted.accept job
  staffed := h.staffed.accept job
  workers_eq := (shift.pool.sameHouse_accept job).workers.trans h.workers_eq
  capacity_eq := (shift.pool.sameHouse_accept job).capacity.trans h.capacity_eq

theorem Manned.act (h : shift.Manned workers capacity) (perform : Task α → σ → σ × Progress)
    (action : Action α) : (shift.act perform action).Manned workers capacity := by
  cases action with
  | submit job =>
    show (shift.submit job).Manned workers capacity
    rw [submit_eq]
    split
    · exact h
    · rename_i hroom
      rw [h.capacity_eq] at hroom
      exact h.accept job (by omega)
  | release gate =>
    have hhouse := shift.pool.sameHouse_release gate
    exact h.of_pool (shift.pool.queue_release gate) (shift.pool.pending_release gate)
      (shift.pool.started_release gate) (h.staffed.release gate) hhouse.workers hhouse.capacity
  | wakeAll => exact h.of_pool rfl rfl shift.pool.started_wakeAll h.staffed.wakeAll rfl rfl
  | work => exact h.workOnce perform
  | postpone => exact h.of_pool rfl rfl shift.pool.started_postpone h.staffed.postpone rfl rfl
  | settle =>
    exact settle_induction (P := Manned workers capacity) (fun _ hshift => hshift.workOnce perform)
      shift h
  | shutdown => exact h.of_pool rfl rfl (.refl _) h.staffed.shutdown rfl rfl

/-! ## After the end -/

/-- Nothing has been accepted or started since, and what was pending still is. -/
structure Closed (before after : Shift α σ) : Prop where
  isShut : after.pool.isShut
  accepted : after.accepted = before.accepted
  started : startedJobs after.notes = startedJobs before.notes
  queue : after.pool.queue = before.pool.queue
  pending : after.pool.pending = before.pool.pending

theorem Closed.workOnce {before : Shift α σ} (h : before.Closed shift)
    (perform : Task α → σ → σ × Progress) : before.Closed (shift.workOnce perform) := by
  unfold Shift.workOnce
  cases hnext : shift.pool.next? with
  | none => exact ⟨h.isShut, h.accepted, h.started, h.queue, h.pending⟩
  | some found =>
    obtain ⟨task, next⟩ := found
    simp only
    generalize perform task shift.state = result
    have hhouse := (Pool.sameHouse_next? hnext).trans (next.sameHouse_after task.job result.2)
    obtain ⟨hnone, hpending⟩ : startedJobs (JobNote.ofTask task result.2) = [] ∧
        next.pending = shift.pool.pending := by
      rcases Pool.nextOf_turns hnext with ⟨_, _, _, -, hopen, -⟩ | ⟨job, _, _, rfl, -, -, -, rfl⟩
      · exact absurd (hopen.symm.trans h.isShut) Bool.false_ne_true
      · cases result.2 <;> exact ⟨rfl, rfl⟩
    have hqueue := queue_after hnext result.2
    rw [hnone] at hqueue
    refine ⟨hhouse.isShut.trans h.isShut, h.accepted, ?_, hqueue.symm.trans h.queue, ?_⟩
    · show startedJobs (_ ++ _) = _
      simpa [hnone] using h.started
    · rw [Pool.pending_after, hpending]
      exact h.pending

theorem Closed.act {before : Shift α σ} (h : before.Closed shift)
    (perform : Task α → σ → σ × Progress) (action : Action α) :
    before.Closed (shift.act perform action) := by
  cases action with
  | submit job =>
    show before.Closed (shift.submit job)
    rw [submit_eq, if_pos (.inl h.isShut)]
    exact h
  | release gate =>
    exact ⟨(shift.pool.sameHouse_release gate).isShut.trans h.isShut, h.accepted, h.started,
      (shift.pool.queue_release gate).trans h.queue,
      (shift.pool.pending_release gate).trans h.pending⟩
  | wakeAll => exact ⟨h.isShut, h.accepted, h.started, h.queue, h.pending⟩
  | work => exact h.workOnce perform
  | postpone => exact ⟨h.isShut, h.accepted, h.started, h.queue, h.pending⟩
  | settle =>
    exact settle_induction (P := before.Closed) (fun _ hshift => hshift.workOnce perform) shift h
  | shutdown => exact ⟨rfl, h.accepted, h.started, h.queue, h.pending⟩

/-- A pool is shut by a shutdown and by nothing else. -/
theorem isShut_act (perform : Task α → σ → σ × Progress) (shift : Shift α σ) (action : Action α) :
    (shift.act perform action).pool.isShut = (shift.pool.isShut || action.isShutdown) := by
  have hwork : ∀ next : Shift α σ, next.pool.isShut = shift.pool.isShut →
      (next.workOnce perform).pool.isShut = shift.pool.isShut := by
    intro next hsame
    unfold workOnce
    cases hnext : next.pool.next? with
    | none => exact hsame
    | some found =>
      obtain ⟨task, later⟩ := found
      exact ((Pool.sameHouse_next? hnext).trans (later.sameHouse_after ..)).isShut.trans hsame
  cases action with
  | submit job =>
    rw [Action.isShutdown, Bool.or_false]
    show (shift.submit job).pool.isShut = _
    rw [submit_eq]
    split
    · rfl
    · exact (shift.pool.sameHouse_accept job).isShut
  | release gate =>
    rw [Action.isShutdown, Bool.or_false]
    exact (shift.pool.sameHouse_release gate).isShut
  | wakeAll => exact (Bool.or_false _).symm
  | work =>
    rw [Action.isShutdown, Bool.or_false]
    exact hwork shift rfl
  | postpone => exact (Bool.or_false _).symm
  | settle =>
    rw [Action.isShutdown, Bool.or_false]
    exact settle_induction (P := fun next => next.pool.isShut = shift.pool.isShut) hwork shift rfl
  | shutdown => exact (Bool.or_true _).symm

theorem isShut_run (perform : Task α → σ → σ × Progress) (shift : Shift α σ)
    (actions : List (Action α)) : (shift.run perform actions).pool.isShut =
      (shift.pool.isShut || actions.any Action.isShutdown) := by
  unfold run
  induction actions generalizing shift with
  | nil => exact (Bool.or_false _).symm
  | cons action rest ih => rw [List.foldl_cons, ih, isShut_act, List.any_cons, Bool.or_assoc]

/-! ## Any shift -/

/-- When the submission of a job fails, and what it leaves behind. -/
structure Refuses (capacity : Nat) (perform : Task α → σ → σ × Progress) (shift : Shift α σ)
    (job : α) : Prop where
  full_iff : (shift.pool.attempt job).1 = .error (.full capacity) ↔
    shift.pool.isShut = false ∧ shift.pool.pending = capacity
  shut_iff : (shift.pool.attempt job).1 = .error .shut ↔ shift.pool.isShut
  /-- There are no other failures, and a job that fails changes nothing. -/
  refused : ∀ error, (shift.pool.attempt job).1 = .error error →
    (error = .full capacity ∨ error = .shut) ∧ shift.act perform (.submit job) = shift

theorem Manned.refuses (h : shift.Manned workers capacity)
    (perform : Task α → σ → σ × Progress) (job : α) : shift.Refuses capacity perform job := by
  have hroom : shift.pool.pending = capacity ↔ capacity ≤ shift.pool.queue.length := by
    rw [h.isCounted]
    exact ⟨fun heq => heq.ge, fun hle => Nat.le_antisymm h.queue_le hle⟩
  have hattempt := shift.pool.attempt_eq job
  rw [h.capacity_eq] at hattempt
  have hsubmit : shift.act perform (.submit job) = shift.submit job := rfl
  rw [submit_eq, h.capacity_eq] at hsubmit
  by_cases hshut : shift.pool.isShut
  · rw [if_pos hshut] at hattempt
    rw [if_pos (.inl hshut)] at hsubmit
    refine ⟨?_, ?_, fun error herror => ⟨.inr ?_, hsubmit⟩⟩ <;> simp_all
  · rw [if_neg hshut] at hattempt
    by_cases hfull : capacity ≤ shift.pool.queue.length
    · rw [if_pos hfull] at hattempt
      rw [if_pos (.inr hfull)] at hsubmit
      refine ⟨?_, ?_, fun error herror => ⟨.inl ?_, hsubmit⟩⟩ <;> simp_all
    · rw [if_neg hfull] at hattempt
      refine ⟨?_, ?_, fun error herror => ?_⟩ <;> simp_all

/-- Whatever jobs there are, whatever they do and whatever is done with their pool:
they start in the order in which they were accepted and each at most once, no more run
at a time than there are workers, those pending are those accepted and not started and
no more than there is room for, submission fails just where the pool is full or shut,
settling leaves a job pending only if every worker has a job that waits, and nothing is
started after a shutdown. -/
theorem run_orderly (perform : Task α → σ → σ × Progress) (workers capacity : Nat) (state : σ)
    (actions : List (Action α)) :
    let shift := (start workers capacity state).run perform actions
    let settled := shift.act perform .settle
    shift.Orderly (max 1 workers) (max 1 capacity) ∧
      shift.pool.isShut = actions.any Action.isShutdown ∧
      (∀ job, shift.Refuses (max 1 capacity) perform job) ∧
      (shift.pool.isShut = false →
        settled.pool.pending = 0 ∨ settled.pool.parked.length = max 1 workers) ∧
      (shift.pool.isShut → ∀ later, shift.Closed (shift.run perform later)) := by
  intro shift settled
  have hmanned : shift.Manned (max 1 workers) (max 1 capacity) :=
    run_induction (P := Manned _ _) (fun _ action h => h.act perform action) actions _
      (manned_start workers capacity state)
  refine ⟨hmanned.orderly, ?_, hmanned.refuses perform, fun hopen => ?_, fun hshut later => ?_⟩
  · exact (isShut_run perform _ actions).trans (Bool.false_or _)
  · have hsettled : settled.Manned (max 1 workers) (max 1 capacity) := hmanned.act perform .settle
    have hstill : settled.pool.isShut = false := by
      rw [isShut_act, hopen]
      rfl
    rw [← hsettled.workers_eq]
    refine (hsettled.staffed.queue_or_parked (shift.pool.turns_settle perform shift.state)
      hstill).imp_left fun hnone => ?_
    rw [hsettled.isCounted, hnone]
    rfl
  · exact run_induction (P := shift.Closed) (fun _ action h => h.act perform action) later shift
      ⟨hshut, rfl, rfl, rfl, rfl⟩

/-- One worker and one place: of three errands the last is refused, and the one that is
pending when the pool is shut never starts. -/
example :
    let errand (name : String) : Errand := ⟨name, true⟩
    let shift := (start 1 1 []).run Errand.perform [
      .submit (errand "a"), .settle, .submit (errand "b"), .submit (errand "c"),
      .shutdown, .release "a", .settle]
    shift.accepted = [errand "a", errand "b"] ∧ shift.pool.pending = 1 ∧
      shift.notes = [.started (errand "a"), .ended (errand "a")] := by
  decide +kernel

end Shift

end LinkDigest
