import LinkDigest.Proofs.Outbox
import Mathlib.Data.List.Induction

/-!
# The way through the outbox

Events are sent through any number of handles and taken out one after the other, and at
some point the outbox is stopped, all this in any order. What is delivered is what was
accepted, in the order in which it was sent, but for updates: of these only the ones that
were both sent and taken out before the stop.
-/

namespace LinkDigest.Outbox

/-! ## Runs -/

/-- What can happen to an outbox. -/
inductive Move where
  /-- An event is sent, through whichever of the handles. -/
  | send (handle : Nat) (event : Event)
  /-- The next event is taken out. -/
  | dispatch
  | stop
deriving DecidableEq, Repr

def Move.event? : Move → Option Event
  | send _ event => some event
  | dispatch | stop => none

def act (outbox : Outbox) : Move → Outbox
  | .send _ event => outbox.send event
  | .dispatch => outbox.dispatch
  | .stop => outbox.stop

/-- An outbox after some moves. -/
def run (moves : List Move) : Outbox := moves.foldl act empty

/-! ## The reference -/

/-- The event that is sent in a place. -/
def sent? (moves : List Move) (place : Nat) : Option Event := moves[place]?.bind Move.event?

/-- Whether there is a stop before a place. -/
def isLate (moves : List Move) (place : Nat) : Bool := (moves.take place).contains .stop

/-- The places of moves of a kind, which the moves before them may have a say in. -/
def places (kind : List Move → Move → Bool) (moves : List Move) : List Nat :=
  (List.range moves.length).filter fun place => moves[place]?.any (kind (moves.take place))

/-- Sends are accepted, but for those of updates after a stop. -/
def accepts (before : List Move) : Move → Bool
  | .send _ event => !(event.isUpdate && before.contains .stop)
  | .dispatch | .stop => false

/-- A dispatch takes an event out if there is one. -/
def takes (before : List Move) : Move → Bool
  | .dispatch => !(run before).waiting.isEmpty
  | .send .. | .stop => false

def accepted (moves : List Move) : List Nat := places accepts moves

def taken (moves : List Move) : List Nat := places takes moves

/-- The events that have been taken out: where each was sent, and where it was taken out.
What was accepted first is taken out first. -/
def passages (moves : List Move) : List (Nat × Nat) := (accepted moves).zip (taken moves)

/-- The places where those events were sent that have not been taken out. -/
def pending (moves : List Move) : List Nat := (accepted moves).drop (taken moves).length

/-- An update comes through if it was sent and taken out before the stop, and any other
event in any case. -/
def comesThrough (moves : List Move) (passage : Nat × Nat) : Bool :=
  !(sent? moves passage.1).any Event.isUpdate ||
    !isLate moves passage.1 && !isLate moves passage.2

/-- The places where those events were sent that have come through. -/
def heard (moves : List Move) : List Nat :=
  ((passages moves).filter (comesThrough moves)).map Prod.fst

/-! ## One move more -/

variable {moves more : List Move}

theorem sent?_append {place : Nat} (h : place < moves.length) :
    sent? (moves ++ more) place = sent? moves place := by
  unfold sent?
  rw [List.getElem?_append_left h]

theorem isLate_append {place : Nat} (h : place ≤ moves.length) :
    isLate (moves ++ more) place = isLate moves place := by
  unfold isLate
  rw [List.take_append_of_le_length h]

theorem isLate_mono {place later : Nat} (h : place ≤ later) (hlate : isLate moves place) :
    isLate moves later := by
  unfold isLate at *
  rw [List.contains_iff_mem] at *
  exact (List.take_sublist_take_left h).subset hlate

theorem run_concat (moves : List Move) (move : Move) :
    run (moves ++ [move]) = (run moves).act move := by
  unfold run
  rw [List.foldl_append]
  rfl

theorem places_concat (kind : List Move → Move → Bool) (moves : List Move) (move : Move) :
    places kind (moves ++ [move]) =
      places kind moves ++ if kind moves move then [moves.length] else [] := by
  unfold places
  rw [List.length_append, List.length_singleton, List.range_succ, List.filter_append]
  congr 1
  · apply List.filter_congr
    intro place hplace
    have hlt := List.mem_range.mp hplace
    rw [List.getElem?_append_left hlt, List.take_append_of_le_length (Nat.le_of_lt hlt)]
  · rw [List.filter_cons, List.getElem?_concat_length, List.take_left]
    rfl

theorem accepted_concat (moves : List Move) (move : Move) : accepted (moves ++ [move]) =
    accepted moves ++ if accepts moves move then [moves.length] else [] := places_concat ..

theorem taken_concat (moves : List Move) (move : Move) : taken (moves ++ [move]) =
    taken moves ++ if takes moves move then [moves.length] else [] := places_concat ..

theorem lt_of_mem_places {kind : List Move → Move → Bool} {place : Nat}
    (h : place ∈ places kind moves) : place < moves.length :=
  List.mem_range.mp (List.mem_filter.mp h).1

theorem lt_of_mem_passages {passage : Nat × Nat} (h : passage ∈ passages moves) :
    passage.1 < moves.length ∧ passage.2 < moves.length :=
  ⟨lt_of_mem_places (List.of_mem_zip h).1, lt_of_mem_places (List.of_mem_zip h).2⟩

theorem comesThrough_append {passage : Nat × Nat} (h : passage ∈ passages moves) :
    comesThrough (moves ++ more) passage = comesThrough moves passage := by
  obtain ⟨hsent, htaken⟩ := lt_of_mem_passages h
  unfold comesThrough
  rw [sent?_append hsent, isLate_append (Nat.le_of_lt hsent), isLate_append (Nat.le_of_lt htaken)]

theorem map_sent?_append {places : List Nat} (h : ∀ place ∈ places, place < moves.length) :
    places.map (sent? (moves ++ more)) = places.map (sent? moves) :=
  List.map_congr_left fun place hplace => sent?_append (h place hplace)

/-! ## What every move keeps -/

/-- The first of two lists goes on: the pairs stay if it was the longer one. -/
theorem zip_append_of_le {as more taken : List Nat} (h : taken.length ≤ as.length) :
    (as ++ more).zip taken = as.zip taken := by
  induction as generalizing taken with
  | nil =>
    rw [List.eq_nil_of_length_eq_zero (Nat.le_zero.mp h)]
    simp
  | cons a as ih =>
    cases taken with
    | nil => rfl
    | cons t taken => exact congrArg _ (ih (Nat.le_of_succ_le_succ h))

/-- The second of two lists goes on: the first that had no partner gets one. -/
theorem zip_concat_of_drop_eq {as rest taken : List Nat} {a : Nat} (t : Nat)
    (h : as.drop taken.length = a :: rest) :
    as.zip (taken ++ [t]) = as.zip taken ++ [(a, t)] := by
  induction as generalizing taken with
  | nil => simp at h
  | cons first as ih =>
    cases taken with
    | nil =>
      cases h
      simp
    | cons _ taken => exact congrArg _ (ih h)

/-- What is so after any moves. -/
structure Carried (moves : List Move) : Prop where
  isStopped : (run moves).isStopped = moves.contains .stop
  taken_le : (taken moves).length ≤ (accepted moves).length
  delivered : (run moves).delivered.map some = (heard moves).map (sent? moves)
  waiting : (run moves).waiting.map some =
    (pending moves).map (sent? moves)

namespace Carried

theorem nil : Carried [] := ⟨rfl, Nat.le_refl _, rfl, rfl⟩

theorem accepts_eq (h : Carried moves) (handle : Nat) (event : Event) :
    accepts moves (.send handle event) = (run moves).passes event := by
  rw [accepts, passes, h.isStopped, Bool.and_comm]

/-- What waits is found where it was sent, also when there is one move more. -/
theorem waiting_append (h : Carried moves) :
    (run moves).waiting.map some = (pending moves).map (sent? (moves ++ more)) := by
  rw [h.waiting]
  refine (map_sent?_append fun place hplace => ?_).symm
  exact lt_of_mem_places (List.mem_of_mem_drop hplace)

/-- The same events come through of those that have been taken out. -/
theorem heard_append (moves more : List Move) :
    (((passages moves).filter (comesThrough (moves ++ more))).map
      Prod.fst).map (sent? (moves ++ more)) = (heard moves).map (sent? moves) := by
  rw [List.filter_congr fun passage hpassage => comesThrough_append hpassage]
  refine map_sent?_append fun place hplace => ?_
  obtain ⟨passage, hpassage, rfl⟩ := List.mem_map.mp hplace
  exact (lt_of_mem_passages (List.mem_filter.mp hpassage).1).1

/-- When no event is taken out, those delivered are the same. -/
theorem of_not_takes (h : Carried moves) {move : Move} (htakes : takes moves move = false)
    (hstop : (run (moves ++ [move])).isStopped = (moves ++ [move]).contains .stop)
    (hdelivered : (run (moves ++ [move])).delivered = (run moves).delivered)
    (hwaiting : (run (moves ++ [move])).waiting.map some =
      ((accepted moves ++ if accepts moves move then [moves.length] else []).drop
        (taken moves).length).map (sent? (moves ++ [move]))) : Carried (moves ++ [move]) := by
  have htaken : taken (moves ++ [move]) = taken moves := by
    rw [taken_concat, htakes]
    exact List.append_nil _
  have hpassages : passages (moves ++ [move]) = passages moves := by
    rw [passages, htaken, accepted_concat]
    exact zip_append_of_le h.taken_le
  refine ⟨hstop, ?_, ?_, ?_⟩
  · rw [htaken, accepted_concat, List.length_append]
    exact Nat.le_add_right_of_le h.taken_le
  · rw [hdelivered, h.delivered, ← heard_append moves [move], ← hpassages]
    rfl
  · rw [hwaiting, pending, htaken, accepted_concat]

theorem send (h : Carried moves) (handle : Nat) (event : Event) :
    Carried (moves ++ [.send handle event]) := by
  have hrun : run (moves ++ [.send handle event]) = (run moves).send event := run_concat ..
  refine h.of_not_takes rfl ?_ ?_ ?_
  · rw [hrun, isStopped_send, h.isStopped]
    simp
  · rw [hrun, Outbox.send]
    split <;> rfl
  · -- What is accepted waits behind all that waited before.
    have hwaiting : ((run moves).send event).waiting =
        (run moves).waiting ++ if (run moves).passes event then [event] else [] := by
      rw [Outbox.send]
      split
      · rfl
      · exact (List.append_nil _).symm
    rw [hrun, hwaiting, h.accepts_eq, List.drop_append_of_le_length h.taken_le, List.map_append,
      List.map_append, h.waiting_append, pending]
    congr 1
    split
    · simp [sent?, Move.event?]
    · rfl

theorem stop (h : Carried moves) : Carried (moves ++ [.stop]) := by
  have hrun : run (moves ++ [.stop]) = (run moves).stop := run_concat ..
  refine h.of_not_takes rfl ?_ ?_ ?_
  · rw [hrun]
    simp [Outbox.stop]
  · rw [hrun]
    rfl
  · rw [hrun, accepts, if_neg Bool.false_ne_true, List.append_nil]
    exact h.waiting_append

/-- The event that is taken out is delivered if it passes, and its passage says so. -/
theorem comesThrough_concat (h : Carried moves) {place : Nat} {event : Event}
    (hplace : place < moves.length) (hsent : sent? moves place = some event) :
    comesThrough (moves ++ [.dispatch]) (place, moves.length) = (run moves).passes event := by
  have hlate : isLate (moves ++ [.dispatch]) moves.length = (run moves).isStopped := by
    rw [isLate_append (Nat.le_refl _), isLate, List.take_length, h.isStopped]
  have hmono : isLate (moves ++ [.dispatch]) place → (run moves).isStopped := by
    rw [← hlate]
    exact isLate_mono (Nat.le_of_lt hplace)
  rw [comesThrough, passes, sent?_append hplace, hsent, hlate]
  revert hmono
  cases isLate (moves ++ [.dispatch]) place <;> cases (run moves).isStopped <;> simp

theorem dispatch (h : Carried moves) : Carried (moves ++ [.dispatch]) := by
  have hrun : run (moves ++ [.dispatch]) = (run moves).dispatch := run_concat ..
  have hstop : (moves ++ [Move.dispatch]).contains .stop = moves.contains .stop := by simp
  have haccepted : accepted (moves ++ [.dispatch]) = accepted moves := by
    rw [accepted_concat]
    exact List.append_nil _
  cases hwaiting : (run moves).waiting with
  | nil =>
    have hnone : (run moves).dispatch = run moves := by simp [Outbox.dispatch, hwaiting]
    refine h.of_not_takes (by simp [takes, hwaiting]) ?_ (by rw [hrun, hnone]) ?_
    · rw [hrun, hnone, hstop]
      exact h.isStopped
    · rw [hrun, hnone, accepts, if_neg Bool.false_ne_true, List.append_nil]
      exact h.waiting_append
  | cons event rest =>
    -- The event was sent in the first place that had no partner.
    have hpending := h.waiting
    rw [hwaiting, eq_comm, List.map_cons, List.map_eq_cons_iff] at hpending
    obtain ⟨place, others, hdrop, hsent, hothers⟩ := hpending
    rw [pending] at hdrop
    have htaken : taken (moves ++ [.dispatch]) = taken moves ++ [moves.length] := by
      rw [taken_concat]
      simp [takes, hwaiting]
    have hpassages : passages (moves ++ [.dispatch]) = passages moves ++ [(place, moves.length)] := by
      rw [passages, haccepted, htaken]
      exact zip_concat_of_drop_eq _ hdrop
    have hmem : place ∈ accepted moves := List.mem_of_mem_drop (hdrop ▸ List.mem_cons_self)
    have hplace := lt_of_mem_places hmem
    have hnext : (run moves).dispatch = { run moves with
        waiting := rest
        delivered := if (run moves).passes event then (run moves).delivered ++ [event]
          else (run moves).delivered } := by
      simp [Outbox.dispatch, hwaiting]
    refine ⟨?_, ?_, ?_, ?_⟩
    · rw [hrun, hnext, hstop]
      exact h.isStopped
    · have hlength := congrArg List.length hdrop
      rw [List.length_drop, List.length_cons] at hlength
      rw [htaken, haccepted, List.length_append, List.length_singleton]
      omega
    · rw [hrun, hnext, heard, hpassages, List.filter_append, List.map_append, List.map_append,
        heard_append, List.filter_cons, h.comesThrough_concat hplace hsent]
      rw [← h.delivered]
      split
      · simp [sent?_append hplace, hsent]
      · simp
    · rw [hrun, hnext, pending, haccepted, htaken, List.length_append, List.length_singleton,
        ← List.drop_drop, hdrop]
      show rest.map some = others.map _
      rw [← hothers]
      refine (map_sent?_append fun other hother => ?_).symm
      exact lt_of_mem_places (List.mem_of_mem_drop (hdrop ▸ List.mem_cons_of_mem _ hother))

theorem run (moves : List Move) : Carried moves := by
  induction moves using List.reverseRecOn with
  | nil => exact nil
  | append_singleton moves move ih =>
    cases move with
    | send handle event => exact ih.send handle event
    | dispatch => exact ih.dispatch
    | stop => exact ih.stop

end Carried

/-! ## Whatever happens -/

theorem pairwise_accepted (moves : List Move) : (accepted moves).Pairwise (· < ·) :=
  List.pairwise_lt_range.filter _

theorem mem_accepted {place : Nat} {event : Event} (h : sent? moves place = some event) :
    place ∈ accepted moves ↔ event.isUpdate = false ∨ isLate moves place = false := by
  obtain ⟨move, hmove, hevent⟩ := Option.bind_eq_some_iff.mp h
  cases move with
  | send handle other =>
    cases hevent
    obtain ⟨hlt, hget⟩ := List.getElem?_eq_some_iff.mp hmove
    simp [accepted, places, hlt, hget, accepts, isLate]
  | dispatch => cases hevent
  | stop => cases hevent

theorem map_fst_passages (moves : List Move) :
    (passages moves).map Prod.fst = (accepted moves).take (taken moves).length := by
  have hle := (Carried.run moves).taken_le
  have hlength := List.length_take_of_le hle
  unfold passages
  rw [← List.take_append_drop (taken moves).length (accepted moves),
    zip_append_of_le (Nat.le_of_eq hlength.symm), List.map_fst_zip (Nat.le_of_eq hlength),
    List.take_append_drop]

/-- What has been accepted has been taken out, or it still waits. -/
theorem mem_passages_or_pending {place : Nat} (h : place ∈ accepted moves) :
    (∃ taking, (place, taking) ∈ passages moves) ∨ place ∈ pending moves := by
  rw [← List.take_append_drop (taken moves).length (accepted moves), ← map_fst_passages] at h
  refine (List.mem_append.mp h).imp_left fun htaken => ?_
  obtain ⟨⟨_, taking⟩, hmem, rfl⟩ := List.mem_map.mp htaken
  exact ⟨taking, hmem⟩

theorem mem_heard {place : Nat} : place ∈ heard moves ↔
    ∃ taking, (place, taking) ∈ passages moves ∧ comesThrough moves (place, taking) := by
  simp [heard]

theorem waiting_replicate (moves : List Move) (count : Nat) :
    (run (moves ++ List.replicate count .dispatch)).waiting = (run moves).waiting.drop count := by
  induction count with
  | zero => simp
  | succ count ih =>
    rw [List.replicate_succ', ← List.append_assoc, run_concat, ← List.drop_drop, ← ih]
    show (dispatch _).waiting = _
    unfold dispatch
    split
    · rename_i hnone
      simp [hnone]
    · rename_i hnext
      simp [hnext]

/-- However sends, dispatches and stops follow one another, what is delivered are events that
were accepted, each once and in the order in which they were sent. Of those that are no updates
none is missing that does not wait, and an update is delivered just if it was sent before
the stop and also taken out before the stop. As many dispatches as there are events that
wait leave none. -/
theorem run_delivers (moves : List Move) :
    (run moves).delivered.map some = (heard moves).map (sent? moves) ∧
    (run moves).waiting.map some = (pending moves).map (sent? moves) ∧
    (heard moves).Sublist (accepted moves) ∧ (accepted moves).Pairwise (· < ·) ∧
    (∀ place event, sent? moves place = some event → event.isUpdate = false →
      place ∈ heard moves ∨ place ∈ pending moves) ∧
    (∀ place event, sent? moves place = some event → event.isUpdate = true →
      (place ∈ heard moves ↔ isLate moves place = false ∧
        ∃ taking, (place, taking) ∈ passages moves ∧ isLate moves taking = false)) ∧
    (run (moves ++ List.replicate (run moves).waiting.length .dispatch)).waiting = [] := by
  have hcarried := Carried.run moves
  refine ⟨hcarried.delivered, hcarried.waiting, ?_, pairwise_accepted moves, ?_, ?_, ?_⟩
  · have htaken := List.filter_sublist (l := passages moves) (p := comesThrough moves)
    refine (htaken.map Prod.fst).trans ?_
    rw [map_fst_passages]
    exact List.take_sublist ..
  · intro place event hsent hlasting
    have haccepted : place ∈ accepted moves := (mem_accepted hsent).mpr (.inl hlasting)
    refine (mem_passages_or_pending haccepted).imp_left fun ⟨taking, hmem⟩ => ?_
    exact mem_heard.mpr ⟨taking, hmem, by simp [comesThrough, hsent, hlasting]⟩
  · intro place event hsent hupdate
    rw [mem_heard]
    constructor
    · rintro ⟨taking, hmem, hcomes⟩
      have hearly : isLate moves place = false ∧ isLate moves taking = false := by
        simpa [comesThrough, hsent, hupdate] using hcomes
      exact ⟨hearly.1, taking, hmem, hearly.2⟩
    · rintro ⟨hplace, taking, hmem, htaking⟩
      exact ⟨taking, hmem, by simp [comesThrough, hplace, htaking]⟩
  · rw [waiting_replicate, List.drop_length]

end LinkDigest.Outbox
