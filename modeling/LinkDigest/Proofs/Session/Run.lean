import LinkDigest.Proofs.Title.Resolver
import LinkDigest.Session

/-!
# Runs of sessions

All that can be done with a session, in any order and as often as one likes;
the work on titles goes task by task. A course is a session together with what
its reviews were to show, what its last scan found, and whether the pool took
every search that its last review began.
-/

namespace LinkDigest

namespace Session

/-- What can be done with a session. -/
inductive Action where
  | scan (corpus : Corpus) (now : Instant)
  | setFilter (filter : Filter) (now : Instant)
  | review (now : Instant)
  | addExclusion (exclusion : Exclusion)
  | clearExclusions
  | resolver (action : Resolver.Action)

def act (session : Session) : Action → Session
  | .scan corpus now => (session.scan corpus now).2
  | .setFilter filter now => (session.setFilter filter now).2
  | .review now => (session.review now).2
  | .addExclusion exclusion => session.addExclusion exclusion
  | .clearExclusions => session.clearExclusions
  | .resolver action => { session with resolver := session.resolver.act action }

/-- Whether an action is a scan or a review that was carried out. -/
def succeeds (session : Session) : Action → Bool
  | .scan corpus now => (session.scan corpus now).1.isOk
  | .setFilter filter now => (session.setFilter filter now).1.isOk
  | .review now => (session.review now).1.isOk
  | .addExclusion _ | .clearExclusions | .resolver _ => false

/-! ## Reviews -/

/-- What a review shows: of the clusters of the last scan the first that pass. -/
def selection (session : Session) (now : Instant) : List VisibleCluster :=
  (session.pipeline.apply session.filter now session.clusters).take session.config.maxDisplayed

/-- The groups of a review, and the resolver when they have been announced and no
title has been asked for. -/
def announced (session : Session) (now : Instant) : List GroupId × Resolver :=
  let (ids, posted) :=
    postAll session.board ((session.entries now).take session.config.maxDisplayed)
  let board := posted.replaceVisible ids
  let desk := session.resolver.desk
  (ids, { session.resolver with
    desk := { desk with
      board := board
      metrics := desk.metrics.setVisible ids.length
      outbox := desk.outbox.sendAll (.cleared :: ids.flatMap (announcement board)) } })

@[simp] theorem isStopped_announced (session : Session) (now : Instant) :
    (session.announced now).2.isStopped = session.isStopped := Outbox.isStopped_sendAll ..

/-- The session after a review that could be carried out. -/
def reviewed (session : Session) (now : Instant) : Session :=
  { session with resolver := (session.announced now).2.resolveAll (session.announced now).1 }

/-- What runs after a review has been running. -/
theorem running_of_reviewed {session : Session} {now : Instant}
    (h : (session.reviewed now).isStopped = false) : session.isStopped = false :=
  (session.isStopped_announced now).symm.trans ((Resolver.quiet_resolveAll ..).running h)

/-- Whether the pool takes every search that a review begins. -/
def isServed (session : Session) (now : Instant) : Bool :=
  ((session.announced now).2.turnedDown (session.announced now).1).isEmpty

theorem reviewRunning_cases (session : Session) (now : Instant) :
    ((session.reviewRunning now).1.isOk = true ∧
      (session.reviewRunning now).2 = session.reviewed now) ∨
    ((session.reviewRunning now).1.isOk = false ∧ (session.reviewRunning now).2 = session) := by
  unfold reviewRunning
  split
  · exact .inr ⟨rfl, rfl⟩
  · exact .inl ⟨rfl, rfl⟩

/-- The session as it is when an action has its clusters filtered, and the time;
none if the action does not come to that. -/
def prepared? (session : Session) : Action → Option (Session × Instant)
  | .scan corpus now =>
    if session.isStopped then none
    else (Scan.run? session.config.scan corpus now).map fun result =>
      (session.store result.clusters, now)
  | .setFilter filter now =>
    if session.isStopped then none else some ({ session with filter := filter }, now)
  | .review now => if session.isStopped then none else some (session, now)
  | .addExclusion _ | .clearExclusions | .resolver _ => none

/-- The clusters that an action puts in place of those of the last scan. -/
def scanned? (session : Session) : Action → Option (List Cluster)
  | .scan corpus now =>
    if session.isStopped then none
    else (Scan.run? session.config.scan corpus now).map ScanResult.clusters
  | .setFilter .. | .review _ | .addExclusion _ | .clearExclusions | .resolver _ => none

/-- How an action comes to a review: a scan has found clusters, there is another filter, or
it is asked for as it is. -/
inductive Prepares (session : Session) : Action → Session → Instant → Prop where
  | scan {corpus : Corpus} {now : Instant} {result : ScanResult}
    (h : Scan.run? session.config.scan corpus now = some result) :
    Prepares session (.scan corpus now) (session.store result.clusters) now
  | setFilter (filter : Filter) (now : Instant) :
    Prepares session (.setFilter filter now) { session with filter := filter } now
  | review (now : Instant) : Prepares session (.review now) session now

theorem prepares_of_prepared? {session next : Session} {action : Action} {now : Instant}
    (h : session.prepared? action = some (next, now)) :
    session.isStopped = false ∧ session.Prepares action next now := by
  cases hstopped : session.isStopped with
  | true => cases action <;> simp [prepared?, hstopped] at h
  | false =>
    refine ⟨rfl, ?_⟩
    cases action with
    | scan corpus time =>
      simp only [prepared?, hstopped, Bool.false_eq_true, if_false] at h
      obtain ⟨result, hresult, heq⟩ := Option.map_eq_some_iff.mp h
      cases heq
      exact .scan hresult
    | setFilter filter time =>
      simp only [prepared?, hstopped, Bool.false_eq_true, if_false] at h
      cases h
      exact .setFilter filter now
    | review time =>
      simp only [prepared?, hstopped, Bool.false_eq_true, if_false] at h
      cases h
      exact .review now
    | addExclusion exclusion => cases h
    | clearExclusions => cases h
    | resolver action => cases h

theorem act_of_prepared? {session next : Session} {action : Action} {now : Instant}
    (h : session.prepared? action = some (next, now)) :
    session.act action = (next.reviewRunning now).2 ∧
      session.succeeds action = (next.reviewRunning now).1.isOk := by
  obtain ⟨hrunning, hprepares⟩ := prepares_of_prepared? h
  cases hprepares with
  | scan hresult =>
    simp only [act, succeeds, scan, hrunning, Bool.false_eq_true, if_false, hresult]
    split <;> simp_all [Except.isOk, Except.toBool]
  | setFilter => simp [act, succeeds, setFilter, hrunning]
  | review => simp [act, succeeds, review, hrunning]

/-- An action that does not come to a review changes no more than the rules of
the caller or the resolver. -/
theorem act_of_prepared?_eq_none {session : Session} {action : Action}
    (h : session.prepared? action = none) :
    session.succeeds action = false ∧ session.scanned? action = none ∧
      (session.act action = session ∨
        (∃ pipeline, session.act action = { session with pipeline := pipeline }) ∨
        ∃ step, action = .resolver step ∧
          session.act action = { session with resolver := session.resolver.act step }) := by
  cases action with
  | scan corpus time =>
    simp only [prepared?] at h
    split at h
    · rename_i hstopped
      simp [succeeds, scanned?, act, scan, hstopped, Except.isOk, Except.toBool]
    · rename_i hrunning
      have hnone := Option.map_eq_none_iff.mp h
      simp [succeeds, scanned?, act, scan, hrunning, hnone, Except.isOk, Except.toBool]
  | setFilter filter time =>
    have hstopped : session.isStopped := by simpa [prepared?] using h
    simp [succeeds, scanned?, act, setFilter, hstopped, Except.isOk, Except.toBool]
  | review time =>
    have hstopped : session.isStopped := by simpa [prepared?] using h
    simp [succeeds, scanned?, act, review, hstopped, Except.isOk, Except.toBool]
  | addExclusion exclusion => exact ⟨rfl, rfl, .inr (.inl ⟨_, rfl⟩)⟩
  | clearExclusions => exact ⟨rfl, rfl, .inr (.inl ⟨_, rfl⟩)⟩
  | resolver step => exact ⟨rfl, rfl, .inr (.inr ⟨step, rfl, rfl⟩)⟩

end Session

/-! ## Courses -/

/-- A session and what has been done with it. -/
structure Course where
  session : Session
  /-- What was to be shown, by each review that was carried out. -/
  reviews : List (List VisibleCluster)
  /-- The clusters the last scan found. -/
  scanned : List Cluster
  /-- Whether, since the last scan, the clusters have been filtered, and whether
  the pool took every search that was then begun. -/
  isServed : Bool

namespace Course

/-- A session with which nothing has been done. -/
def start (config : Config) (rules : Rules) (network : Network) (metrics : Metrics)
    (filter : Filter) (indexes : Text.Indexes := .empty) : Course :=
  ⟨.new config rules network metrics filter indexes, [], [], true⟩

def step (course : Course) (action : Session.Action) : Course :=
  let session := course.session
  let prepared := session.prepared? action
  { session := session.act action
    reviews := course.reviews ++
      if session.succeeds action then
        (prepared.map fun (session, now) => session.selection now).toList
      else []
    scanned := (session.scanned? action).getD course.scanned
    isServed :=
      if session.succeeds action then prepared.all fun (session, now) => session.isServed now
      else (session.scanned? action).isNone && course.isServed }

def run (course : Course) (actions : List Session.Action) : Course := actions.foldl step course

variable {P : Course → Prop}

/-- What settings, resolvers, scans and reviews keep, every action keeps. Only a
review may come after something else. -/
theorem step_induction {course : Course} {action : Session.Action} (h : P course)
    (hsettings : ∀ pipeline filter,
      P { course with
        session := { course.session with pipeline := pipeline, filter := filter } })
    (hresolver : ∀ step, action = .resolver step →
      P { course with
        session := { course.session with resolver := course.session.resolver.act step } })
    (hstore : ∀ corpus now result, Scan.run? course.session.config.scan corpus now = some result →
      P { course with
        session := course.session.store result.clusters
        scanned := result.clusters
        isServed := false })
    (hreview : ∀ course now, P course →
      P { course with
        session := course.session.reviewed now
        reviews := course.reviews ++ [course.session.selection now]
        isServed := course.session.isServed now }) : P (course.step action) := by
  unfold step
  cases hprepared : course.session.prepared? action with
  | none =>
    obtain ⟨hfails, hscanned, hact⟩ := Session.act_of_prepared?_eq_none hprepared
    simp only [hfails, hscanned]
    simp only [Bool.false_eq_true, if_false, List.append_nil, Option.getD_none,
      Option.isNone_none, Bool.true_and]
    rcases hact with hact | ⟨pipeline, hact⟩ | ⟨step, haction, hact⟩
    · rw [hact]
      exact h
    · rw [hact]
      exact hsettings pipeline course.session.filter
    · rw [hact]
      exact hresolver step haction
  | some found =>
    obtain ⟨next, now⟩ := found
    obtain ⟨hact, hsucceeds⟩ := Session.act_of_prepared? hprepared
    -- Before the review there is a scan, another filter, or nothing.
    have hnext : P { course with
        session := next
        scanned := (course.session.scanned? action).getD course.scanned
        isServed := (course.session.scanned? action).isNone && course.isServed } := by
      obtain ⟨hrunning, hprepares⟩ := Session.prepares_of_prepared? hprepared
      cases hprepares with
      | scan hresult =>
        simp only [Session.scanned?, hrunning, Bool.false_eq_true, if_false, hresult]
        exact hstore _ _ _ hresult
      | setFilter filter => exact hsettings course.session.pipeline filter
      | review => exact h
    simp only [hprepared, hact, hsucceeds, Option.map_some, Option.all_some]
    rcases next.reviewRunning_cases now with ⟨hok, hreviewed⟩ | ⟨hfails, hsame⟩
    · rw [hok, hreviewed]
      exact hreview _ now hnext
    · rw [hfails, hsame]
      simpa using hnext

theorem run_append (course : Course) (actions more : List Session.Action) :
    course.run (actions ++ more) = (course.run actions).run more := List.foldl_append

/-- What each of some actions keeps holds after all of them. -/
theorem run_induction_of_mem {actions : List Session.Action} {course : Course}
    (hstep : ∀ course, ∀ action ∈ actions, P course → P (course.step action)) (h : P course) :
    P (course.run actions) := by
  unfold run
  induction actions generalizing course with
  | nil => exact h
  | cons action rest ih =>
    exact ih (fun course other hother => hstep course other (List.mem_cons_of_mem _ hother))
      (hstep course action List.mem_cons_self h)

/-- What every action keeps holds after any number of them. -/
theorem run_induction (hstep : ∀ course action, P course → P (course.step action))
    (actions : List Session.Action) (course : Course) (h : P course) : P (course.run actions) :=
  run_induction_of_mem (fun course action _ => hstep course action) h

end Course

end LinkDigest
