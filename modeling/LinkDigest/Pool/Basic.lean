/-!
# The worker pool

Jobs wait in a queue of limited length until one of a fixed number of workers
takes them. A job that waits for something keeps its worker. Who may go on is
a list of turns, worked off from its front: either an idle worker looks into
the queue, or a job goes on whose waiting is over.
-/

namespace LinkDigest

/-- Why a job was not accepted. -/
inductive PoolError where
  /-- So many jobs are pending, and no more may be. -/
  | full (pending : Nat)
  | shut
deriving DecidableEq, Repr

def PoolError.message : PoolError → String
  | .full pending => "Resolution queue is full (" ++ toString pending ++ " pending)"
  | .shut => "Resolution pool is shut down"

/-- A job that keeps its worker waiting. -/
structure Parked (α : Type) where
  job : α
  /-- What has to open before the job goes on; it may wait for nothing that opens. -/
  gate : Option String
deriving DecidableEq, Repr

/-- Who goes on. -/
inductive Turn (α : Type) where
  /-- An idle worker looks into the queue. -/
  | take
  /-- A job whose waiting is over. -/
  | resume (job : α)
deriving DecidableEq, Repr

namespace Turn

variable {α : Type}

def isTake : Turn α → Bool
  | take => true
  | resume _ => false

/-- A bound for the turns that a turn leads to. -/
def work : Turn α → Nat
  | take => 1
  | resume _ => 2

end Turn

/-- What a worker is to do. -/
inductive Task (α : Type) where
  | start (job : α)
  | resume (job : α)
deriving DecidableEq, Repr

def Task.job {α : Type} : Task α → α
  | .start job => job
  | .resume job => job

/-- How far a job came. -/
inductive Progress where
  | finished
  /-- It waits, perhaps for nothing that opens. -/
  | waits (gate : Option String)
deriving DecidableEq, Repr

/-- A pool of workers. -/
structure Pool (α : Type) where
  workers : Nat
  /-- The most jobs that may be pending. -/
  capacity : Nat
  /-- Jobs accepted and not started, the next one first. -/
  queue : List α
  /-- How many jobs are counted as accepted and not started. -/
  pending : Nat
  /-- Jobs that wait, in the order in which they began to. -/
  parked : List (Parked α)
  turns : List (Turn α)
  /-- Gates opened before anyone waited for them. -/
  passes : List String
  /-- Whether jobs are neither accepted nor started any more. -/
  isShut : Bool
deriving DecidableEq, Repr

namespace Pool

variable {α : Type}

/-- A pool with nothing to do. There are always a worker and a place in the queue. -/
def new (workers capacity : Nat) : Pool α :=
  ⟨max 1 workers, max 1 capacity, [], 0, [], [], [], false⟩

/-- The number of jobs started and not finished. -/
def busy (pool : Pool α) : Nat :=
  pool.parked.length + (pool.turns.filter fun turn => !turn.isTake).length

/-- The number of workers without a job. -/
def idle (pool : Pool α) : Nat := pool.workers - pool.busy

/-- With a turn for an idle worker, if there is one and none of them has a turn yet. -/
def callWorker (pool : Pool α) : Pool α :=
  if pool.idle = 0 ∨ pool.turns.any Turn.isTake then pool
  else { pool with turns := pool.turns ++ [.take] }

@[simp] theorem queue_callWorker (pool : Pool α) : pool.callWorker.queue = pool.queue := by
  unfold callWorker
  split <;> rfl

@[simp] theorem pending_callWorker (pool : Pool α) : pool.callWorker.pending = pool.pending := by
  unfold callWorker
  split <;> rfl

/-- With one job more in the queue, if there is room. -/
def send? (pool : Pool α) (job : α) : Option (Pool α) :=
  if pool.capacity ≤ pool.queue.length then none
  else some { pool with queue := pool.queue ++ [job] }.callWorker

/-- A job submitted: it is counted before it is sent, and no more if it could not be. -/
def attempt (pool : Pool α) (job : α) : Except PoolError Unit × Pool α :=
  if pool.isShut then (.error .shut, pool)
  else
    let counted := { pool with pending := pool.pending + 1 }
    match counted.send? job with
    | some sent => (.ok (), sent)
    | none => (.error (.full pool.capacity), { counted with pending := counted.pending - 1 })

/-- With one job more, if it is accepted. -/
def submit (pool : Pool α) (job : α) : Except PoolError (Pool α) :=
  match pool.attempt job with
  | (.ok (), next) => .ok next
  | (.error error, _) => .error error

/-- With a gate opened once: for the first job that waits for it, or else in advance. -/
def release (pool : Pool α) (gate : String) : Pool α :=
  match pool.parked.find? fun parked => parked.gate = some gate with
  | some found =>
    { pool with
      parked := pool.parked.eraseP fun parked => parked.gate = some gate
      turns := pool.turns ++ [.resume found.job] }
  | none => { pool with passes := gate :: pool.passes.filter fun pass => pass ≠ gate }

@[simp] theorem queue_release (pool : Pool α) (gate : String) :
    (pool.release gate).queue = pool.queue := by
  unfold release
  split <;> rfl

@[simp] theorem pending_release (pool : Pool α) (gate : String) :
    (pool.release gate).pending = pool.pending := by
  unfold release
  split <;> rfl

/-- Neither accepting nor starting jobs any more. -/
def shutdown (pool : Pool α) : Pool α := { pool with isShut := true }

/-- With all waiting over. -/
def wakeAll (pool : Pool α) : Pool α :=
  { pool with
    parked := []
    turns := pool.turns ++ pool.parked.map fun parked => .resume parked.job }

/-- After a job whose worker goes back to the queue; it looks into it at once
unless another worker is idle. -/
def finish (pool : Pool α) : Pool α :=
  if pool.idle = 1 then { pool with turns := .take :: pool.turns } else pool

@[simp] theorem queue_finish (pool : Pool α) : pool.finish.queue = pool.queue := by
  unfold finish
  split <;> rfl

@[simp] theorem pending_finish (pool : Pool α) : pool.finish.pending = pool.pending := by
  unfold finish
  split <;> rfl

/-- With a job that waits; a gate opened in advance lets it go on at once. -/
def park (pool : Pool α) (job : α) (gate : Option String) : Pool α :=
  match pool.passes.find? fun pass => gate = some pass with
  | some pass =>
    { pool with
      passes := pool.passes.eraseP fun known => known = pass
      turns := .resume job :: pool.turns }
  | none => { pool with parked := pool.parked ++ [⟨job, gate⟩] }

@[simp] theorem queue_park (pool : Pool α) (job : α) (gate : Option String) :
    (pool.park job gate).queue = pool.queue := by
  unfold park
  split <;> rfl

@[simp] theorem pending_park (pool : Pool α) (job : α) (gate : Option String) :
    (pool.park job gate).pending = pool.pending := by
  unfold park
  split <;> rfl

/-- After a job has come so far. -/
def after (pool : Pool α) (job : α) : Progress → Pool α
  | .finished => pool.finish
  | .waits gate => pool.park job gate

@[simp] theorem queue_after (pool : Pool α) (job : α) (progress : Progress) :
    (pool.after job progress).queue = pool.queue := by
  cases progress <;> simp [after]

@[simp] theorem pending_after (pool : Pool α) (job : α) (progress : Progress) :
    (pool.after job progress).pending = pool.pending := by
  cases progress <;> simp [after]

/-- The turns that another idle worker gets when one has taken a job. -/
def following (pool : Pool α) : List (Turn α) := if 2 ≤ pool.idle then [.take] else []

/-- What is to be done next, and the pool without it, looking at these turns. -/
def nextOf (pool : Pool α) : List (Turn α) → Option (Task α × Pool α)
  | [] => none
  | .resume job :: rest => some (.resume job, { pool with turns := rest })
  | .take :: rest =>
    match pool.queue, pool.isShut with
    | job :: queue, false =>
      some (.start job, { pool with
        queue := queue
        pending := pool.pending - 1
        turns := rest ++ pool.following })
    | _, _ => nextOf pool rest

/-- What is to be done next, and the pool without it. -/
def next? (pool : Pool α) : Option (Task α × Pool α) := pool.nextOf pool.turns

end Pool

end LinkDigest
