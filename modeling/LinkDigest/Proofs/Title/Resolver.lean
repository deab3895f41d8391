import LinkDigest.Proofs.Pool.Jobs
import LinkDigest.Proofs.Title.Desk
import LinkDigest.Title.Resolver

/-!
# What asking for titles does

Asking for the title of a group comes to one of six ends. As with tasks,
nothing is told to the reader but updates, and of the board only titles and
searches change.
-/

namespace LinkDigest.Resolver

/-- Whether the pool turns down the search that asking for a title begins. -/
def isTurnedDown (resolver : Resolver) (id : GroupId) : Bool :=
  match resolver.desk.board.cluster? id with
  | none => false
  | some cluster =>
    !resolver.desk.cache.contains cluster.url && !resolver.isStopped &&
      resolver.desk.board.isVisible id && (resolver.desk.board.begin? id).isSome &&
      !(resolver.pool.submit id).isOk

/-- The groups whose searches the pool turns down when several are asked for, one
after the other. -/
def turnedDown (resolver : Resolver) : List GroupId → List GroupId
  | [] => []
  | id :: ids =>
    (if resolver.isTurnedDown id then [id] else []) ++ turnedDown (resolver.resolve id).2 ids

/-- The ends that asking for a title comes to, but for metrics. -/
inductive Resolves (resolver : Resolver) (id : GroupId) : Resolver → Prop where
  | unknown (hcluster : resolver.desk.board.cluster? id = none) : Resolves resolver id resolver
  | cached (cluster : Cluster) (title : String) (metrics : Metrics)
      (hcluster : resolver.desk.board.cluster? id = some cluster)
      (hfind : resolver.desk.cache.find? cluster.url = some title) :
      Resolves resolver id
        { resolver with desk := resolveFromCache { resolver.desk with
            cache := resolver.desk.cache.use cluster.url, metrics := metrics } id cluster title }
  | unwanted (metrics : Metrics)
      (hreason : resolver.isStopped ∨ resolver.desk.board.isVisible id = false) :
      Resolves resolver id { resolver with desk := { resolver.desk with metrics := metrics } }
  | busy (metrics : Metrics) (hbegin : resolver.desk.board.begin? id = none) :
      Resolves resolver id { resolver with desk := { resolver.desk with metrics := metrics } }
  | begun (cluster : Cluster) (metrics : Metrics) (board : Board) (pool : Pool GroupId)
      (hcluster : resolver.desk.board.cluster? id = some cluster)
      (hbegin : resolver.desk.board.begin? id = some board)
      (hsubmit : resolver.pool.submit id = .ok pool)
      (hmiss : resolver.desk.cache.find? cluster.url = none) :
      Resolves resolver id
        { desk := { resolver.desk with board := board, metrics := metrics }, pool := pool }
  | refused (metrics : Metrics) (board : Board)
      (hbegin : resolver.desk.board.begin? id = some board) (hrefused : resolver.isTurnedDown id) :
      Resolves resolver id
        { resolver with
          desk := { resolver.desk with board := board.giveUp id, metrics := metrics } }

theorem resolves (resolver : Resolver) (id : GroupId) :
    Resolves resolver id (resolver.resolve id).2 := by
  unfold resolve
  cases hcluster : resolver.desk.board.cluster? id with
  | none => exact .unknown hcluster
  | some cluster =>
    simp only [lookup, Desk.lookup]
    cases hfind : resolver.desk.cache.find? cluster.url with
    | some title => exact .cached cluster title _ hcluster hfind
    | none =>
      simp only [TitleCache.use_of_find?_eq_none hfind, request]
      by_cases hwanted : resolver.isStopped ∨ resolver.desk.board.isVisible id = false
      · rw [if_pos (by simpa [isStopped, Desk.isStopped] using hwanted)]
        exact .unwanted _ hwanted
      · rw [if_neg (by simpa [isStopped, Desk.isStopped] using hwanted)]
        cases hbegin : resolver.desk.board.begin? id with
        | none => exact .busy _ hbegin
        | some board =>
          simp only [submit]
          cases hsubmit : resolver.pool.submit id with
          | ok pool =>
            rw [Pool.attempt_of_submit hsubmit]
            exact .begun cluster _ board pool hcluster hbegin hsubmit hfind
          | error error =>
            rw [Pool.attempt_of_submit_error hsubmit]
            refine .refused _ board hbegin ?_
            have hmiss : resolver.desk.cache.contains cluster.url = false := by
              simp [TitleCache.contains, hfind]
            have hwants : resolver.isStopped = false ∧ resolver.desk.board.isVisible id = true := by
              simpa using hwanted
            simp [isTurnedDown, hcluster, hmiss, hwants, hbegin, hsubmit, Except.isOk,
              Except.toBool]

/-! ## What is left as it is -/

theorem quiet_resolveFromCache (desk : Desk) (id : GroupId) (cluster : Cluster) (title : String) :
    Desk.Quiet desk (resolveFromCache desk id cluster title) := by
  have hboard : desk.board.SameOutline ((desk.board.setTitle id title).markResolved id) :=
    (desk.board.sameOutline_setTitle id title).trans (Board.sameOutline_markResolved _ id)
  have hquiet := Desk.quiet_of_board hboard desk.cache desk.metrics desk.opened
  unfold resolveFromCache
  split
  · exact hquiet
  · exact hquiet.trans (Desk.quiet_announce _ id)

theorem Resolves.quiet {resolver next : Resolver} {id : GroupId} (h : Resolves resolver id next) :
    Desk.Quiet resolver.desk next.desk := by
  cases h with
  | unknown => exact .refl _
  | cached cluster title metrics =>
    exact (Desk.quiet_of_board (.refl _) _ metrics resolver.desk.opened).trans
      (quiet_resolveFromCache ..)
  | unwanted => exact Desk.quiet_of_board (.refl _) ..
  | busy => exact Desk.quiet_of_board (.refl _) ..
  | begun cluster metrics board pool hcluster hbegin =>
    exact Desk.quiet_of_board (Board.sameOutline_begin? hbegin) ..
  | refused metrics board hbegin =>
    exact Desk.quiet_of_board
      ((Board.sameOutline_begin? hbegin).trans (board.sameOutline_giveUp id)) ..

theorem quiet_resolveAll (resolver : Resolver) (ids : List GroupId) :
    Desk.Quiet resolver.desk (resolver.resolveAll ids).desk := by
  unfold resolveAll
  induction ids generalizing resolver with
  | nil => exact .refl _
  | cons id ids ih => exact (resolver.resolves id).quiet.trans (ih _)

/-! ## Task by task -/

/-- With the next task done, if there is one. -/
def workOnce (resolver : Resolver) : Resolver :=
  match resolver.pool.next? with
  | none => { resolver with pool := { resolver.pool with turns := [] } }
  | some (task, next) =>
    let (desk, progress) := Desk.perform task resolver.desk
    { desk := desk, pool := next.after task.job progress }

/-- What every task keeps holds after all of them. -/
theorem work_induction {P : Resolver → Prop} (hstep : ∀ resolver, P resolver → P resolver.workOnce)
    (resolver : Resolver) (h : P resolver) : P resolver.work := by
  refine Pool.settle_induction (P := fun pool desk => P ⟨desk, pool⟩) ?_ ?_ resolver.pool
    resolver.desk h
  · intro pool desk hnext hpool
    have hidle := hstep ⟨desk, pool⟩ hpool
    simp only [workOnce, hnext] at hidle
    exact hidle
  · intro pool desk task next hnext hpool
    have htask := hstep ⟨desk, pool⟩ hpool
    simp only [workOnce, hnext] at htask
    exact htask

theorem quiet_workOnce (resolver : Resolver) :
    Desk.Quiet resolver.desk resolver.workOnce.desk := by
  unfold workOnce
  split
  · exact .refl _
  · rename_i task next _
    exact (Desk.performs task resolver.desk).quiet

theorem quiet_work (resolver : Resolver) : Desk.Quiet resolver.desk resolver.work.desk :=
  work_induction (P := fun next => Desk.Quiet resolver.desk next.desk)
    (fun next h => h.trans next.quiet_workOnce) resolver (.refl _)

/-! ## Whatever is done -/

/-- What can be done with a resolver apart from asking for titles. -/
inductive Action where
  /-- A held answer is released. -/
  | release (url : String)
  /-- One task is done. -/
  | work
  /-- What is to be done next is put off until after the rest. -/
  | postpone
  /-- The reader is told of the next event. -/
  | dispatch
  /-- All is done that can be, and the reader is told of it. -/
  | settle
  | lookup (url : String)
  | put (url title : String)
  | clear
  | stop

def act (resolver : Resolver) : Action → Resolver
  | .release url => resolver.release url
  | .work => resolver.workOnce
  | .postpone => { resolver with pool := resolver.pool.postpone }
  | .dispatch =>
    { resolver with desk := { resolver.desk with outbox := resolver.desk.outbox.dispatch } }
  | .settle => resolver.settle
  | .lookup url => (resolver.lookup url).2
  | .put url title => resolver.modifyCache fun cache => cache.put url title
  | .clear => resolver.modifyCache TitleCache.clear
  | .stop => resolver.stop

theorem quiet_deliver (resolver : Resolver) : Desk.Quiet resolver.desk resolver.deliver.desk :=
  Desk.quiet_of_outbox resolver.desk.outbox.record_deliver id

theorem quiet_act (resolver : Resolver) (action : Action) :
    Desk.Quiet resolver.desk (resolver.act action).desk := by
  cases action with
  | release url => exact .refl _
  | work => exact resolver.quiet_workOnce
  | postpone => exact .refl _
  | dispatch =>
    refine Desk.quiet_of_outbox resolver.desk.outbox.record_dispatch fun hstopped => ?_
    unfold Outbox.dispatch
    split <;> exact hstopped
  | settle => exact resolver.quiet_work.trans resolver.work.quiet_deliver
  | lookup url => exact Desk.quiet_of_board (.refl _) ..
  | put url title => exact Desk.quiet_of_board (.refl _) ..
  | clear => exact Desk.quiet_of_board (.refl _) ..
  | stop => exact Desk.quiet_of_outbox resolver.desk.outbox.record_stop fun _ => rfl

end LinkDigest.Resolver
