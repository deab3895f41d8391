import LinkDigest.Outbox

/-!
# Events that last

An update may be dropped once the outbox is stopped. All other events are
delivered whatever happens, and in the order in which they were sent.
-/

namespace LinkDigest

/-- The events that are no updates. -/
def lasting (events : List Event) : List Event := events.filter fun event => !event.isUpdate

@[simp] theorem lasting_append (xs ys : List Event) :
    lasting (xs ++ ys) = lasting xs ++ lasting ys := List.filter_append ..

theorem lasting_eq_self {events : List Event} (h : ∀ event ∈ events, event.isUpdate = false) :
    lasting events = events := by
  unfold lasting
  rw [List.filter_eq_self]
  intro event hmem
  simp [h event hmem]

namespace Outbox

/-- The events sent so far that are delivered or will be in any case. -/
def record (outbox : Outbox) : List Event := lasting (outbox.delivered ++ outbox.waiting)

theorem passes_of_not_isUpdate (outbox : Outbox) {event : Event} (h : event.isUpdate = false) :
    outbox.passes event := by
  simp [passes, h]

@[simp] theorem record_send (outbox : Outbox) (event : Event) :
    (outbox.send event).record = outbox.record ++ lasting [event] := by
  unfold send
  by_cases hupdate : event.isUpdate
  · have hnone : lasting [event] = [] := by simp [lasting, hupdate]
    rw [hnone, List.append_nil]
    split
    · simp only [record, ← List.append_assoc, lasting_append, hnone, List.append_nil]
    · rfl
  · rw [if_pos (outbox.passes_of_not_isUpdate (by simpa using hupdate))]
    simp only [record, ← List.append_assoc, lasting_append]

@[simp] theorem record_stop (outbox : Outbox) : outbox.stop.record = outbox.record := rfl

@[simp] theorem record_deliver (outbox : Outbox) : outbox.deliver.record = outbox.record := by
  have hpasses : lasting (outbox.waiting.filter outbox.passes) = lasting outbox.waiting := by
    unfold lasting
    rw [List.filter_filter]
    apply List.filter_congr
    intro event _
    by_cases hupdate : event.isUpdate
    · simp [hupdate]
    · simp [outbox.passes_of_not_isUpdate (by simpa using hupdate)]
  simp only [record, deliver, List.append_nil, lasting_append, hpasses]

@[simp] theorem record_dispatch (outbox : Outbox) : outbox.dispatch.record = outbox.record := by
  rw [← record_deliver, deliver_dispatch, record_deliver]

/-! ## All that was sent -/

/-- The events delivered or on their way, in their order. -/
def log (outbox : Outbox) : List Event := outbox.delivered ++ outbox.waiting

@[simp] theorem log_send (outbox : Outbox) (event : Event) :
    (outbox.send event).log = outbox.log ++ if outbox.passes event then [event] else [] := by
  unfold send log
  split
  · exact (List.append_assoc ..).symm
  · exact (List.append_nil _).symm

theorem log_sendAll (outbox : Outbox) {events : List Event}
    (h : ∀ event ∈ events, event.isUpdate = false) :
    (outbox.sendAll events).log = outbox.log ++ events := by
  unfold sendAll
  induction events generalizing outbox with
  | nil => exact (List.append_nil _).symm
  | cons event rest ih =>
    have hpasses := outbox.passes_of_not_isUpdate (h event List.mem_cons_self)
    rw [List.foldl_cons, ih _ fun other hother => h other (List.mem_cons_of_mem _ hother),
      log_send, if_pos hpasses, List.append_assoc, List.singleton_append]

theorem log_deliver_sublist (outbox : Outbox) : outbox.deliver.log.Sublist outbox.log := by
  show (outbox.delivered ++ outbox.waiting.filter outbox.passes ++ []).Sublist _
  rw [List.append_nil]
  exact List.filter_sublist.append_left _

theorem log_dispatch_sublist (outbox : Outbox) : outbox.dispatch.log.Sublist outbox.log := by
  unfold dispatch log
  split
  · exact .refl _
  · rename_i event rest hwaiting
    rw [hwaiting]
    split
    · simp
    · exact (List.sublist_cons_self event rest).append_left _

theorem passes_of_running {outbox : Outbox} (h : outbox.isStopped = false) (event : Event) :
    outbox.passes event := by
  simp [passes, h]

/-- As long as nothing is stopped nothing is dropped. -/
theorem log_deliver {outbox : Outbox} (h : outbox.isStopped = false) :
    outbox.deliver.log = outbox.log := by
  have hall : outbox.waiting.filter outbox.passes = outbox.waiting :=
    List.filter_eq_self.mpr fun event _ => passes_of_running h event
  show outbox.delivered ++ outbox.waiting.filter outbox.passes ++ [] = _
  rw [hall, List.append_nil, log]

theorem log_dispatch {outbox : Outbox} (h : outbox.isStopped = false) :
    outbox.dispatch.log = outbox.log := by
  unfold dispatch log
  split
  · rfl
  · rename_i event rest hwaiting
    rw [hwaiting, if_pos (passes_of_running h event)]
    simp

/-- Once all is delivered, what lasts has been delivered. -/
theorem lasting_delivered_deliver (outbox : Outbox) :
    lasting outbox.deliver.delivered = outbox.record := by
  rw [← record_deliver]
  simp [record, deliver]

end Outbox

end LinkDigest
