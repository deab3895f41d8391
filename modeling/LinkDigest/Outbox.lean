import LinkDigest.Board.Event

/-!
# The outbox

Events on their way to the reader of results. They are delivered in the order
in which they were sent. Once stopped, no update is sent or delivered any
more; all other events still are.
-/

namespace LinkDigest

/-- Events on their way. -/
structure Outbox where
  /-- Sent and not delivered, the next one first. -/
  waiting : List Event
  /-- In the order of delivery. -/
  delivered : List Event
  isStopped : Bool
deriving DecidableEq, Repr

namespace Outbox

/-- Nothing sent yet. -/
def empty : Outbox := ⟨[], [], false⟩

/-- Whether an event may pass. -/
def passes (outbox : Outbox) (event : Event) : Bool := !(outbox.isStopped && event.isUpdate)

/-- With an event sent, if it may pass. -/
def send (outbox : Outbox) (event : Event) : Outbox :=
  if outbox.passes event then { outbox with waiting := outbox.waiting ++ [event] } else outbox

@[simp] theorem isStopped_send (outbox : Outbox) (event : Event) :
    (outbox.send event).isStopped = outbox.isStopped := by
  unfold send
  split <;> rfl

def sendAll (outbox : Outbox) (events : List Event) : Outbox := events.foldl send outbox

@[simp] theorem isStopped_sendAll (outbox : Outbox) (events : List Event) :
    (outbox.sendAll events).isStopped = outbox.isStopped := by
  unfold sendAll
  induction events generalizing outbox with
  | nil => rfl
  | cons event rest ih => simp [ih]

/-- Stopped for good. -/
def stop (outbox : Outbox) : Outbox := { outbox with isStopped := true }

/-- With the next event delivered, if it may pass, or else dropped. -/
def dispatch (outbox : Outbox) : Outbox :=
  match outbox.waiting with
  | [] => outbox
  | event :: rest =>
    { outbox with
      waiting := rest
      delivered := if outbox.passes event then outbox.delivered ++ [event]
        else outbox.delivered }

/-- With all events delivered that may pass. -/
def deliver (outbox : Outbox) : Outbox :=
  { outbox with
    waiting := []
    delivered := outbox.delivered ++ outbox.waiting.filter outbox.passes }

/-- Delivering all is dispatching until nothing waits. -/
@[simp] theorem deliver_dispatch (outbox : Outbox) : outbox.dispatch.deliver = outbox.deliver := by
  unfold dispatch
  split
  · rfl
  · rename_i event rest hwaiting
    have hpasses : ∀ waiting delivered, passes ⟨waiting, delivered, outbox.isStopped⟩ =
        outbox.passes := fun _ _ => rfl
    simp only [deliver, hwaiting, hpasses, List.filter_cons]
    split <;> simp

end Outbox

end LinkDigest
