import LinkDigest.Proofs.Board.Searches
import LinkDigest.Proofs.Title.Resolver

/-!
# No search is lost

As long as it is not stopped, a resolver tends all searches: one that is under
way has a job, and one that ended well has left a title. And a group in sight
that has been seen to stays so, whatever jobs do.
-/

namespace LinkDigest

/-- Whether the search for the title of a link ends by being cancelled. -/
def Desk.Cancels (desk : Desk) (url : String) : Prop :=
  SearchCancels desk.rules desk.network desk.indexes desk.scanLimit url

theorem Desk.Quiet.cancels {before after : Desk} (h : Desk.Quiet before after) :
    after.Cancels = before.Cancels := by
  unfold Desk.Cancels
  rw [h.rules, h.network, h.indexes, h.scanLimit]

namespace Resolver

/-- All searches are looked after. -/
structure Tended (resolver : Resolver) : Prop where
  sound : resolver.desk.board.Sound
  owned : resolver.desk.board.Owned resolver.pool.jobs
  titled : resolver.desk.board.Titled
  /-- The groups of jobs exist. -/
  lt_of_mem : ∀ id ∈ resolver.pool.jobs, id < resolver.desk.board.groups.length
  /-- Jobs that wait are for links whose titles the rules do not know. -/
  unknown : ∀ id ∈ resolver.pool.started, ∀ cluster,
    resolver.desk.board.cluster? id = some cluster →
      resolver.desk.rules.customTitle? cluster.url.toList = none

/-- Whether a group is in sight and has been seen to. -/
def Serves (resolver : Resolver) (id : GroupId) : Prop :=
  resolver.desk.board.Serves resolver.desk.Cancels id

/-- After work that leaves the outline as it is, searches are looked after if the
new board agrees with the new jobs. -/
theorem Tended.quiet {before after : Resolver} (h : before.Tended)
    (hquiet : Desk.Quiet before.desk after.desk)
    (howned : after.desk.board.Owned after.pool.jobs) (htitled : after.desk.board.Titled)
    (hjobs : ∀ id ∈ after.pool.jobs,
      id ∈ before.pool.jobs ∨ id < before.desk.board.groups.length)
    (hstarted : ∀ id ∈ after.pool.started, id ∈ before.pool.started ∨
      ∃ cluster, before.desk.board.cluster? id = some cluster ∧
        before.desk.rules.customTitle? cluster.url.toList = none) : after.Tended where
  sound := hquiet.board.sound h.sound
  owned := howned
  titled := htitled
  lt_of_mem id hid := by
    have hlength : after.desk.board.groups.length = before.desk.board.groups.length := by
      simpa using congrArg List.length hquiet.board.groups
    rw [hlength]
    exact (hjobs id hid).elim (h.lt_of_mem id) fun hlt => hlt
  unknown id hid cluster hcluster := by
    obtain ⟨old, hold, hsame⟩ := hquiet.board.symm.cluster? hcluster
    rw [hquiet.rules, ← (Cluster.eq_of_untitled hsame).1]
    rcases hstarted id hid with hwaited | ⟨known, hknown, hrules⟩
    · exact h.unknown id hwaited old hold
    · rw [hold, Option.some.injEq] at hknown
      rw [hknown]
      exact hrules

/-! ## Steps that lose nothing -/

/-- Nothing is lost from one state to another, unless the resolver is stopped. -/
structure Steady (before after : Resolver) : Prop where
  quiet : Desk.Quiet before.desk after.desk
  tended : after.isStopped = false → before.Tended → after.Tended
  serves : after.isStopped = false → before.Tended → ∀ id, before.Serves id → after.Serves id

theorem Steady.refl (resolver : Resolver) : Steady resolver resolver :=
  ⟨.refl _, fun _ h => h, fun _ _ _ h => h⟩

theorem Steady.trans {a b c : Resolver} (h : Steady a b) (h' : Steady b c) : Steady a c where
  quiet := h.quiet.trans h'.quiet
  tended hrunning ha := h'.tended hrunning (h.tended (h'.quiet.running hrunning) ha)
  serves hrunning ha id hid :=
    h'.serves hrunning (h.tended (h'.quiet.running hrunning) ha) id
      (h.serves (h'.quiet.running hrunning) ha id hid)

/-- A resolver that differs in nothing that searches are about is as before. -/
theorem steady_of_eq {before after : Resolver} (hquiet : Desk.Quiet before.desk after.desk)
    (hboard : after.desk.board = before.desk.board)
    (hjobs : after.pool.jobs.Perm before.pool.jobs)
    (hstarted : after.pool.started.Perm before.pool.started) : Steady before after where
  quiet := hquiet
  tended _ h := by
    refine h.quiet hquiet ?_ ?_ (fun id hid => .inl (hjobs.mem_iff.mp hid))
      (fun id hid => .inl (hstarted.mem_iff.mp hid))
    · rw [hboard]
      exact h.owned.mono fun id hid => hjobs.mem_iff.mpr hid
    · rw [hboard]
      exact h.titled
  serves _ _ id hid := by
    unfold Serves
    rw [hboard, hquiet.cancels]
    exact hid

/-! ## Tasks -/

section

variable {resolver : Resolver} {task : Task GroupId} {next : Pool GroupId}
  (hnext : resolver.pool.next? = some (task, next))

include hnext

theorem workOnce_eq : resolver.workOnce =
    ⟨(Desk.perform task resolver.desk).1,
      next.after task.job (Desk.perform task resolver.desk).2⟩ := by
  unfold workOnce
  rw [hnext]

/-- The task's job is one of the jobs, and the others stay. -/
theorem Tended.owned_next? (h : resolver.Tended) :
    resolver.desk.board.Owned (task.job :: next.jobs) :=
  h.owned.mono fun _ hid => (Pool.jobs_next? hnext).mem_iff.mp hid

theorem mem_of_mem_next? {id : GroupId} (hid : id ∈ next.jobs) : id ∈ resolver.pool.jobs :=
  (Pool.jobs_next? hnext).mem_iff.mpr (List.mem_cons_of_mem _ hid)

theorem mem_started_of_next? {id : GroupId} (hid : id ∈ next.started) :
    id ∈ resolver.pool.started := by
  rcases Pool.next?_cases hnext with ⟨job, -, -, hstarted⟩ | ⟨job, -, -, hstarted⟩
  · exact hstarted ▸ hid
  · exact hstarted.mem_iff.mpr (List.mem_cons_of_mem _ hid)

/-- No rule knows the title that a search waits for. -/
theorem Tended.unknown_job (h : resolver.Tended) {cluster : Cluster}
    (hcluster : resolver.desk.board.cluster? task.job = some cluster)
    (hrules : task = .start task.job →
      resolver.desk.rules.customTitle? cluster.url.toList = none) :
    resolver.desk.rules.customTitle? cluster.url.toList = none := by
  rcases Pool.next?_cases hnext with ⟨job, rfl, -⟩ | ⟨job, rfl, -, hstarted⟩
  · exact hrules rfl
  · exact h.unknown job (hstarted.mem_iff.mpr List.mem_cons_self) cluster hcluster

/-- A job may finish when no search for its group is under way any more. -/
theorem Tended.finished {desk : Desk} (h : resolver.Tended)
    (hquiet : Desk.Quiet resolver.desk desk) (howned : desk.board.Owned next.jobs)
    (htitled : desk.board.Titled) : Tended ⟨desk, next.after task.job .finished⟩ := by
  have hjobs : (next.after task.job .finished).jobs = next.jobs :=
    next.jobs_after_finished task.job
  have hstarted : (next.after task.job .finished).started = next.started := next.started_finish
  refine h.quiet hquiet ?_ htitled (fun id hid => .inl ?_) fun id hid => .inl ?_
  · exact hjobs ▸ howned
  · exact mem_of_mem_next? hnext (hjobs ▸ hid)
  · exact mem_started_of_next? hnext (hstarted ▸ hid)

theorem Tended.performs (h : resolver.Tended) (hrunning : resolver.isStopped = false)
    {result : Desk × Progress} (hresult : Desk.Performs resolver.desk task result) :
    Tended ⟨result.1, next.after task.job result.2⟩ := by
  have hquiet := hresult.quiet
  have hstopped : ¬ resolver.desk.isStopped := by simpa [isStopped] using hrunning
  have howned := h.owned_next? hnext
  cases hresult with
  | waits cluster opened gate hcluster hrules =>
    have hjobs := next.jobs_after_waits task.job gate
    refine h.quiet hquiet ?_ h.titled (fun id hid => .inl ?_) fun id hid => ?_
    · exact howned.mono fun id hid => hjobs.mem_iff.mpr hid
    · exact (Pool.jobs_next? hnext).mem_iff.mpr (hjobs.mem_iff.mp hid)
    · rcases List.mem_cons.mp ((next.started_park task.job gate).mem_iff.mp hid) with rfl | hid
      · exact .inr ⟨cluster, hcluster, h.unknown_job hnext hcluster hrules⟩
      · exact .inl (mem_started_of_next? hnext hid)
  | nothing hreason =>
    refine h.finished hnext hquiet ?_ h.titled
    intro id group hgroup hsearch
    rcases List.mem_cons.mp (howned id group hgroup hsearch) with rfl | hid
    · -- Every group has a cluster, so a job without one was for no group.
      obtain ⟨cluster, -, hcluster⟩ := h.sound.exists_cluster hgroup
      rw [hreason.resolve_left hstopped] at hcluster
      cases hcluster
    · exact hid
  | hidden hvisible => exact h.finished hnext hquiet howned.giveUp h.titled.giveUp
  | stopped hstopped' => exact absurd hstopped' hstopped
  | cancelled cluster opened => exact h.finished hnext hquiet howned.giveUp h.titled.giveUp
  | resolved cluster opened metrics title outcome =>
    refine h.finished hnext hquiet ?_ ?_
    · simpa using howned.resolved title
    · simpa using h.titled.resolved title

theorem Serves.performs (h : resolver.Tended) (hrunning : resolver.isStopped = false)
    {result : Desk × Progress} (hresult : Desk.Performs resolver.desk task result) {id : GroupId}
    (hid : resolver.Serves id) : result.1.board.Serves result.1.Cancels id := by
  rw [hresult.quiet.cancels]
  have hstopped : ¬ resolver.desk.isStopped := by simpa [isStopped] using hrunning
  cases hresult with
  | waits => exact hid
  | nothing => exact hid
  | hidden hvisible =>
    -- Only groups out of sight are left for later, and those seen to are in sight.
    refine Board.Serves.giveUp hid ?_
    rintro rfl
    obtain ⟨group, -, hgroup, -, hshown, -⟩ := hid
    have hseen := Board.isVisible_iff.mpr ⟨group, hgroup, hshown⟩
    rw [hvisible] at hseen
    cases hseen
  | stopped hstopped' => exact absurd hstopped' hstopped
  | cancelled cluster opened hcluster hrules hcancels =>
    refine Board.Serves.giveUp hid ?_
    rintro rfl other hother
    rw [hcluster, Option.some.injEq] at hother
    subst hother
    exact ⟨h.unknown_job hnext hcluster hrules, hcancels⟩
  | resolved cluster opened metrics title outcome =>
    simpa using Board.Serves.resolved hid title

end

theorem steady_workOnce (resolver : Resolver) : Steady resolver resolver.workOnce := by
  cases hnext : resolver.pool.next? with
  | none =>
    have hstarted := Pool.started_of_next?_eq_none hnext
    have hidle : resolver.workOnce = { resolver with pool := { resolver.pool with turns := [] } } :=
      by rw [workOnce, hnext]
    rw [hidle]
    exact steady_of_eq (.refl _) rfl (.of_eq (congrArg (resolver.pool.queue ++ ·) hstarted))
      (.of_eq hstarted)
  | some found =>
    obtain ⟨task, next⟩ := found
    have hquiet := resolver.quiet_workOnce
    rw [workOnce_eq hnext] at hquiet ⊢
    have hperforms := Desk.performs task resolver.desk
    exact ⟨hquiet, fun hrunning h => h.performs hnext (hquiet.running hrunning) hperforms,
      fun hrunning h _ => Serves.performs hnext h (hquiet.running hrunning) hperforms⟩

theorem steady_work (resolver : Resolver) : Steady resolver resolver.work :=
  work_induction (P := fun next => Steady resolver next)
    (fun next h => h.trans next.steady_workOnce) resolver (.refl _)

/-! ## Whatever is done -/

theorem steady_act (resolver : Resolver) (action : Action) :
    Steady resolver (resolver.act action) := by
  have hquiet := resolver.quiet_act action
  cases action with
  | release url =>
    exact steady_of_eq hquiet rfl (resolver.pool.jobs_release url)
      (resolver.pool.started_release url)
  | work => exact resolver.steady_workOnce
  | postpone =>
    exact steady_of_eq hquiet rfl resolver.pool.jobs_postpone resolver.pool.started_postpone
  | dispatch => exact steady_of_eq hquiet rfl (.refl _) (.refl _)
  | settle =>
    have hdelivered : Steady resolver.work resolver.work.deliver :=
      steady_of_eq resolver.work.quiet_deliver rfl (.refl _) (.refl _)
    exact resolver.steady_work.trans hdelivered
  | lookup url => exact steady_of_eq hquiet rfl (.refl _) (.refl _)
  | put url title => exact steady_of_eq hquiet rfl (.refl _) (.refl _)
  | clear => exact steady_of_eq hquiet rfl (.refl _) (.refl _)
  | stop =>
    have hstopped : (resolver.act .stop).isStopped = true := rfl
    refine ⟨hquiet, fun hrunning => ?_, fun hrunning => ?_⟩
    · rw [hstopped] at hrunning
      cases hrunning
    · rw [hstopped] at hrunning
      cases hrunning

/-! ## Asking for titles -/

theorem Tended.resolves {resolver next : Resolver} {id : GroupId} (h : resolver.Tended)
    (hresult : Resolves resolver id next) : next.Tended := by
  have hquiet := hresult.quiet
  cases hresult with
  | unknown => exact h
  | cached cluster title metrics =>
    refine h.quiet hquiet ?_ ?_ (fun _ => .inl) fun _ => .inl
    · simpa using (h.owned.mono fun _ => List.mem_cons_of_mem _).resolved title
    · simpa using h.titled.resolved title
  | unwanted => exact h.quiet hquiet h.owned h.titled (fun _ => .inl) fun _ => .inl
  | busy => exact h.quiet hquiet h.owned h.titled (fun _ => .inl) fun _ => .inl
  | begun cluster metrics board pool hcluster hbegin hsubmit =>
    have hjobs := Pool.jobs_submit hsubmit
    refine h.quiet hquiet ?_ (h.titled.begin? hbegin) (fun other hother => ?_) fun other hother => ?_
    · exact (h.owned.begin? hbegin).mono fun _ hid => hjobs.mem_iff.mpr hid
    · rcases List.mem_cons.mp (hjobs.mem_iff.mp hother) with rfl | hold
      · obtain ⟨group, hgroup, -⟩ := Option.bind_eq_some_iff.mp hcluster
        exact .inr (List.getElem?_eq_some_iff.mp hgroup).1
      · exact .inl hold
    · exact .inl (Pool.started_submit hsubmit ▸ hother)
  | refused metrics board hbegin =>
    -- What was begun is given up at once, so no job is needed for it.
    exact h.quiet hquiet (h.owned.begin? hbegin).giveUp (h.titled.begin? hbegin).giveUp
      (fun _ => .inl) fun _ => .inl

theorem Tended.resolveAll {resolver : Resolver} (h : resolver.Tended) (ids : List GroupId) :
    (resolver.resolveAll ids).Tended := by
  unfold Resolver.resolveAll
  induction ids generalizing resolver with
  | nil => exact h
  | cons id ids ih => exact ih (h.resolves (resolver.resolves id))

section

variable {resolver next : Resolver} {id : GroupId} (hresult : Resolves resolver id next)
  (htaken : resolver.isTurnedDown id = false)

include hresult htaken

theorem Serves.resolves {other : GroupId} (hother : resolver.Serves other) :
    next.Serves other := by
  unfold Serves
  rw [hresult.quiet.cancels]
  cases hresult with
  | unknown => exact hother
  | cached cluster title metrics =>
    simpa using Board.Serves.resolved hother title
  | unwanted => exact hother
  | busy => exact hother
  | begun cluster metrics board pool hcluster hbegin => exact Board.Serves.begin? hother hbegin
  | refused metrics board hbegin hrefused =>
    rw [htaken] at hrefused
    cases hrefused

/-- A group in sight has been seen to once its title has been asked for. -/
theorem serves_of_resolves (h : resolver.Tended) (hrunning : resolver.isStopped = false)
    (hsight : resolver.desk.board.isVisible id) : next.Serves id := by
  have hnext := h.resolves hresult
  have hnextSight := hresult.quiet.board.isVisible hsight
  obtain ⟨group, hgroup, -⟩ := Board.isVisible_iff.mp hsight
  cases hresult with
  | unknown hcluster =>
    obtain ⟨cluster, -, hknown⟩ := h.sound.exists_cluster hgroup
    rw [hcluster] at hknown
    cases hknown
  | cached cluster title metrics =>
    have hfound : (resolveFromCache { resolver.desk with
          cache := resolver.desk.cache.use cluster.url, metrics := metrics }
        id cluster title).board.groups[id]? = some { group with resolution := .resolved } := by
      simp [hgroup]
    exact Board.serves_of_resolution hnext.sound hfound hnextSight fun hnone => nomatch hnone
  | unwanted metrics hreason =>
    rw [hrunning, hsight] at hreason
    simp at hreason
  | busy metrics hbegin =>
    -- A search not begun anew is one under way or over.
    refine Board.serves_of_resolution hnext.sound hgroup hnextSight ?_
    intro hnone
    unfold Board.begin? Board.resolution? at hbegin
    simp [hgroup, hnone] at hbegin
  | begun cluster metrics board pool hcluster hbegin =>
    have hfound : board.groups[id]? = some { group with resolution := .resolving } := by
      simp [Board.eq_of_begin?_eq_some hbegin, hgroup]
    exact Board.serves_of_resolution hnext.sound hfound hnextSight fun hnone => nomatch hnone
  | refused metrics board hbegin hrefused =>
    rw [htaken] at hrefused
    cases hrefused

end

/-- Groups seen to stay so, and those in sight have been seen to once their titles
have been asked for, if the pool has taken every search. -/
theorem serves_resolveAll {resolver : Resolver} (h : resolver.Tended) {ids : List GroupId}
    (hrunning : (resolver.resolveAll ids).isStopped = false)
    (htaken : resolver.turnedDown ids = [])
    (hsight : ∀ id ∈ ids, resolver.desk.board.isVisible id) (done : GroupId → Prop)
    (hdone : ∀ id, done id → resolver.Serves id) :
    ∀ id, done id ∨ id ∈ ids → (resolver.resolveAll ids).Serves id := by
  unfold resolveAll at hrunning ⊢
  -- Each group asked for joins those that are done, so what is done is general too.
  induction ids generalizing resolver done with
  | nil => exact fun id hid => hdone id (hid.resolve_right List.not_mem_nil)
  | cons first rest ih =>
    have hresult := resolver.resolves first
    have hfirst : resolver.isTurnedDown first = false := by
      cases hdown : resolver.isTurnedDown first with
      | false => rfl
      | true => simp [turnedDown, hdown] at htaken
    have hrest : (resolver.resolve first).2.turnedDown rest = [] :=
      (List.append_eq_nil_iff.mp htaken).2
    have hbefore : resolver.isStopped = false :=
      (resolver.quiet_resolveAll (first :: rest)).running hrunning
    have hseen : ∀ other, done other ∨ other = first → (resolver.resolve first).2.Serves other := by
      rintro other (hother | rfl)
      · exact (hdone other hother).resolves hresult hfirst
      · exact serves_of_resolves hresult hfirst h hbefore (hsight other List.mem_cons_self)
    intro id hid
    rw [List.mem_cons, ← or_assoc] at hid
    refine ih (h.resolves hresult) hrunning hrest ?_ _ hseen id hid
    intro other hother
    exact hresult.quiet.board.isVisible (hsight other (List.mem_cons_of_mem _ hother))

end Resolver

end LinkDigest
