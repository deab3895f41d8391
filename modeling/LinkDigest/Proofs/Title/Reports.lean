import LinkDigest.Proofs.Board.Views
import LinkDigest.Proofs.Title.Tending

/-!
# What updates tell of

Every update is for a group that a resolver was asked for: one in sight, or one of a
job that has been started. What the reader has been told before that update, apart
from other updates, is all that was sent before it.
-/

namespace LinkDigest

/-! ## Events before an update -/

/-- Every update comes after events that suit it, these being, updates left out, what
was told before and what precedes it here. -/
def EveryUpdate (suits : List Event → GroupView → Prop) : List Event → List Event → Prop
  | _, [] => True
  | told, event :: rest =>
    (∀ view, event = .groupUpdated view → suits told view) ∧
      EveryUpdate suits (told ++ lasting [event]) rest

namespace EveryUpdate

variable {suits : List Event → GroupView → Prop} {told xs ys : List Event}

theorem append_iff :
    EveryUpdate suits told (xs ++ ys) ↔
      EveryUpdate suits told xs ∧ EveryUpdate suits (told ++ lasting xs) ys := by
  induction xs generalizing told with
  | nil => simp [EveryUpdate, lasting]
  | cons event rest ih =>
    have htold : told ++ lasting [event] ++ lasting rest = told ++ lasting (event :: rest) := by
      rw [List.append_assoc, ← lasting_append]
      rfl
    rw [List.cons_append, EveryUpdate, EveryUpdate, ih, htold, and_assoc]

theorem mono {weaker : List Event → GroupView → Prop} (h : EveryUpdate suits told xs)
    (hweaker : ∀ told view, suits told view → weaker told view) : EveryUpdate weaker told xs := by
  induction xs generalizing told with
  | nil => trivial
  | cons event rest ih =>
    exact ⟨fun view hview => hweaker _ view (h.1 view hview), ih h.2⟩

/-- Events that are no updates suit always. -/
theorem of_not_isUpdate (h : ∀ event ∈ xs, event.isUpdate = false) :
    EveryUpdate suits told xs := by
  induction xs generalizing told with
  | nil => trivial
  | cons event rest ih =>
    refine ⟨?_, ih fun other hother => h other (List.mem_cons_of_mem _ hother)⟩
    rintro view rfl
    exact absurd (h _ List.mem_cons_self) (by simp [Event.isUpdate])

theorem append_update {view : GroupView} (h : EveryUpdate suits told xs)
    (hview : suits (told ++ lasting xs) view) :
    EveryUpdate suits told (xs ++ [.groupUpdated view]) := by
  refine append_iff.mpr ⟨h, ?_, trivial⟩
  intro other hother
  cases hother
  exact hview

/-- When only updates are dropped, the others come after the same events as before. -/
theorem sublist (h : EveryUpdate suits told ys) (hsub : xs.Sublist ys)
    (hlasting : lasting xs = lasting ys) : EveryUpdate suits told xs := by
  induction hsub generalizing told with
  | slnil => trivial
  | @cons xs ys event hsub ih =>
    -- What is dropped is an update, since all that lasts is still there.
    have hupdate : lasting [event] = [] := by
      have hlength := (hsub.filter fun event => !event.isUpdate).length_le
      have hsplit : lasting (event :: ys) = lasting [event] ++ lasting ys :=
        lasting_append [event] ys
      have hcount := congrArg List.length (hlasting.trans hsplit)
      rw [List.length_append] at hcount
      change (lasting xs).length ≤ (lasting ys).length at hlength
      exact List.length_eq_zero_iff.mp (by omega)
    have hrest : lasting (event :: ys) = lasting ys := by
      rw [show event :: ys = [event] ++ ys from rfl, lasting_append, hupdate, List.nil_append]
    have htail := h.2
    rw [hupdate, List.append_nil] at htail
    exact ih htail (hlasting.trans hrest)
  | @cons_cons xs ys event hsub ih =>
    refine ⟨h.1, ih h.2 ?_⟩
    rw [show event :: xs = [event] ++ xs from rfl, show event :: ys = [event] ++ ys from rfl,
      lasting_append, lasting_append] at hlasting
    exact List.append_cancel_left hlasting

/-- What precedes an update suits it. -/
theorem of_split {before after : List Event} {view : GroupView}
    (h : EveryUpdate suits told (before ++ .groupUpdated view :: after)) :
    suits (told ++ lasting before) view := (append_iff.mp h).2.1 view rfl

end EveryUpdate

/-! ## Reports -/

/-- Every update sent so far suits what was told before it, and so would one for any
of some groups now. -/
structure Desk.Reports (suits : List Event → GroupView → Prop) (groups : GroupId → Prop)
    (desk : Desk) : Prop where
  updates : EveryUpdate suits [] desk.outbox.log
  suits_of : ∀ id view, groups id → desk.board.view? id = some view →
    ∀ other : GroupView, other.key = view.key → suits desk.outbox.record other

namespace Desk.Reports

variable {suits : List Event → GroupView → Prop} {groups : GroupId → Prop} {desk after : Desk}
  {id : GroupId}

/-- Groups look the same, up to their titles, on boards of the same outline. -/
theorem key_of_view? {before after : Board} (h : before.SameOutline after) {view : GroupView}
    (hview : after.view? id = some view) :
    ∃ old, before.view? id = some old ∧ old.key = view.key := by
  obtain ⟨group, cluster, hgroup, hcluster, rfl⟩ := Board.exists_of_view? hview
  exact Option.map_eq_some_iff.mp (h.symm.keeps.key hgroup hcluster)

/-- Where no update is sent, all stays as it is. -/
theorem of_log (h : desk.Reports suits groups) (hboard : desk.board.SameOutline after.board)
    (hlog : after.outbox.log.Sublist desk.outbox.log)
    (hrecord : after.outbox.record = desk.outbox.record) : after.Reports suits groups where
  updates := h.updates.sublist hlog hrecord
  suits_of id view hid hview other hother := by
    obtain ⟨old, hold, hkey⟩ := key_of_view? hboard hview
    rw [hrecord]
    exact h.suits_of id old hid hold other (hother.trans hkey.symm)

theorem of_outbox (h : desk.Reports suits groups) (hboard : desk.board.SameOutline after.board)
    (houtbox : after.outbox = desk.outbox) : after.Reports suits groups :=
  h.of_log hboard (houtbox ▸ .refl _) (by rw [houtbox])

theorem announce (h : desk.Reports suits groups) (hid : groups id) :
    (desk.announce id).Reports suits groups := by
  have hquiet := desk.quiet_announce id
  refine ⟨?_, fun other view hother hview => ?_⟩
  · cases hview : desk.board.view? id with
    | none =>
      unfold Desk.announce
      rw [hview]
      exact h.updates
    | some view =>
      rw [Desk.log_announce hview]
      split
      · refine h.updates.append_update ?_
        rw [List.nil_append]
        exact h.suits_of id view hid hview view rfl
      · rw [List.append_nil]
        exact h.updates
  · rw [hquiet.record]
    exact h.suits_of other view hother (by simpa using hview)

theorem named (h : desk.Reports suits groups) (hid : groups id) (title : String) :
    (({ desk with
      board := (desk.board.setTitle id title).markResolved id } : Desk).announce id).Reports
        suits groups := by
  have hboard := (desk.board.sameOutline_setTitle id title).trans
    (Board.sameOutline_markResolved _ id)
  have hnamed : Reports suits groups
      { desk with board := (desk.board.setTitle id title).markResolved id } :=
    h.of_outbox hboard rfl
  exact hnamed.announce hid

/-- A task tells of no group but its own. -/
theorem performs (h : desk.Reports suits groups) {task : Task GroupId}
    {result : Desk × Progress} (hresult : Performs desk task result)
    (hid : desk.Sees task → groups task.job) : result.1.Reports suits groups := by
  cases hresult with
  | waits => exact h.of_outbox (.refl _) rfl
  | nothing => exact h
  | hidden => exact h.of_outbox (desk.board.sameOutline_giveUp _) rfl
  | stopped => exact h.of_outbox (desk.board.sameOutline_giveUp _) rfl
  | cancelled => exact h.of_outbox (desk.board.sameOutline_giveUp _) rfl
  | resolved cluster opened metrics title outcome hcluster hrunning hsight =>
    have hstored : Reports suits groups
        { desk with
          opened := opened
          metrics := metrics.recordTitle outcome.label
          cache := desk.cache.put cluster.url title } := h.of_outbox (.refl _) rfl
    exact hstored.named (hid hsight) title

end Desk.Reports

namespace Resolver

variable {suits : List Event → GroupView → Prop} {groups : GroupId → Prop}
  {resolver next : Resolver}

/-- The groups that updates may be for now are among some. -/
structure Reports (suits : List Event → GroupView → Prop) (groups : GroupId → Prop)
    (resolver : Resolver) : Prop where
  desk : resolver.desk.Reports suits groups
  visible : ∀ id, resolver.desk.board.isVisible id → groups id
  started : ∀ id ∈ resolver.pool.started, groups id

namespace Reports

theorem of_desk (h : resolver.Reports suits groups) (hdesk : next.desk.Reports suits groups)
    (hboard : resolver.desk.board.SameOutline next.desk.board)
    (hstarted : ∀ id ∈ next.pool.started, groups id) : next.Reports suits groups :=
  ⟨hdesk, fun id hid => h.visible id (hboard.symm.isVisible hid), hstarted⟩

theorem workOnce (h : resolver.Reports suits groups) :
    resolver.workOnce.Reports suits groups := by
  have hboard := resolver.quiet_workOnce.board
  cases hnext : resolver.pool.next? with
  | none =>
    have hidle : resolver.workOnce = { resolver with pool := { resolver.pool with turns := [] } } :=
      by rw [Resolver.workOnce, hnext]
    rw [hidle]
    refine h.of_desk h.desk (.refl _) fun id hid => h.started id ?_
    exact Pool.started_of_next?_eq_none hnext ▸ hid
  | some found =>
    obtain ⟨task, next⟩ := found
    rw [workOnce_eq hnext] at hboard ⊢
    have hperforms := Desk.performs task resolver.desk
    -- A job is for a group in sight when it is started, and it may go on ever after.
    have hjob : resolver.desk.Sees task → groups task.job := fun hsight => by
      rcases Pool.next?_cases hnext with ⟨job, rfl, -⟩ | ⟨job, rfl, -, hstarted⟩
      · exact h.visible job (hsight rfl)
      · exact h.started job (hstarted.mem_iff.mpr List.mem_cons_self)
    have hold : ∀ id ∈ next.started, groups id := fun id hid =>
      h.started id (mem_started_of_next? hnext hid)
    refine h.of_desk (h.desk.performs hperforms hjob) hboard ?_
    generalize Desk.perform task resolver.desk = result at hperforms
    cases hperforms with
    | waits cluster opened gate hcluster hrules hsight =>
      intro id hid
      rcases List.mem_cons.mp ((next.started_park task.job gate).mem_iff.mp hid) with rfl | hid
      · exact hjob hsight
      · exact hold id hid
    | nothing => exact fun id hid => hold id (next.started_finish ▸ hid)
    | hidden => exact fun id hid => hold id (next.started_finish ▸ hid)
    | stopped => exact fun id hid => hold id (next.started_finish ▸ hid)
    | cancelled => exact fun id hid => hold id (next.started_finish ▸ hid)
    | resolved => exact fun id hid => hold id (next.started_finish ▸ hid)

theorem act (h : resolver.Reports suits groups) (action : Action) :
    (resolver.act action).Reports suits groups := by
  have hquiet := resolver.quiet_act action
  cases action with
  | release url =>
    exact h.of_desk h.desk (.refl _) fun id hid =>
      h.started id ((resolver.pool.started_release url).mem_iff.mp hid)
  | work => exact h.workOnce
  | postpone =>
    exact h.of_desk h.desk (.refl _) fun id hid =>
      h.started id (resolver.pool.started_postpone.mem_iff.mp hid)
  | dispatch =>
    refine h.of_desk (h.desk.of_log (.refl _) ?_ hquiet.record) (.refl _) h.started
    exact resolver.desk.outbox.log_dispatch_sublist
  | settle =>
    have hwork : resolver.work.Reports suits groups :=
      work_induction (P := Reports suits groups) (fun _ => workOnce) resolver h
    refine hwork.of_desk (hwork.desk.of_log (.refl _) ?_ resolver.work.quiet_deliver.record)
      (.refl _) hwork.started
    exact resolver.work.desk.outbox.log_deliver_sublist
  | lookup url => exact h.of_desk (h.desk.of_outbox (.refl _) rfl) (.refl _) h.started
  | put url title => exact h.of_desk (h.desk.of_outbox (.refl _) rfl) (.refl _) h.started
  | clear => exact h.of_desk (h.desk.of_outbox (.refl _) rfl) (.refl _) h.started
  | stop =>
    refine h.of_desk (h.desk.of_log (.refl _) (.refl _) hquiet.record) (.refl _) fun id hid => ?_
    exact h.started id (resolver.pool.shutdown.started_wakeAll.mem_iff.mp hid)

end Reports

/-- Asking for the title of a group tells of no other group. -/
theorem reports_resolves {id : GroupId} (h : resolver.desk.Reports suits groups)
    (hresult : Resolves resolver id next) (hid : groups id) : next.desk.Reports suits groups := by
  have hboard := hresult.quiet.board
  cases hresult with
  | unknown => exact h
  | cached cluster title metrics =>
    have hused : Desk.Reports suits groups { resolver.desk with
        cache := resolver.desk.cache.use cluster.url, metrics := metrics } :=
      h.of_outbox (.refl _) rfl
    show (resolveFromCache _ id cluster title).Reports suits groups
    unfold resolveFromCache
    simp only
    split
    · exact h.of_outbox ((resolver.desk.board.sameOutline_setTitle id title).trans
        (Board.sameOutline_markResolved _ id)) rfl
    · exact hused.named hid title
  | unwanted => exact h.of_outbox (.refl _) rfl
  | busy => exact h.of_outbox (.refl _) rfl
  | begun => exact h.of_outbox hboard rfl
  | refused => exact h.of_outbox hboard rfl

theorem reports_resolveAll {ids : List GroupId} (h : resolver.desk.Reports suits groups)
    (hids : ∀ id ∈ ids, groups id) : (resolver.resolveAll ids).desk.Reports suits groups := by
  unfold resolveAll
  induction ids generalizing resolver with
  | nil => exact h
  | cons id ids ih =>
    exact ih (reports_resolves h (resolver.resolves id) (hids id List.mem_cons_self))
      fun other hother => hids other (List.mem_cons_of_mem _ hother)

end Resolver

end LinkDigest
