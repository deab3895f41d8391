import LinkDigest.Proofs.Board.Tables
import LinkDigest.Proofs.Outbox
import LinkDigest.Proofs.Title.Reference

/-!
# What a search does

A task for a group comes to one of four ends: it waits, it has nothing to do, it
gives the search up, or it finds a title, and that is the one the link has.
Whichever it is, nothing is told to the reader but updates, and of the board only
titles and searches change.
-/

namespace LinkDigest

/-- Whether the page of a link reports that reading it was cancelled, be it on
opening or on the way to the title. -/
def Network.Cancels (network : Network) (indexes : Text.Indexes) (limit : Nat) (url : String) :
    Prop :=
  match (network url).answer with
  | .error error => error = .cancelled
  | .ok page => page.isHtml ∧ page.read limit indexes = .failed .cancelled

/-- Whether the search for the title of a link ends by being cancelled: no rule
knows the title, and the page reports it. -/
def SearchCancels (rules : Rules) (network : Network) (indexes : Text.Indexes) (usual : Nat)
    (url : String) : Prop :=
  rules.customTitle? url.toList = none ∧
    network.Cancels indexes (rules.scanLimitFor url.toList usual) url

/-- Whether the search for the title of a link ends with this one. -/
def FindsTitle (rules : Rules) (network : Network) (indexes : Text.Indexes) (usual : Nat)
    (url title : String) : Prop :=
  title = titleOf rules network indexes usual url ∧
    ¬ SearchCancels rules network indexes usual url

theorem findsTitle_of_customTitle? {rules : Rules} {url : String} {title : List Char}
    (h : rules.customTitle? url.toList = some title) (network : Network) (indexes : Text.Indexes)
    (usual : Nat) : FindsTitle rules network indexes usual url (String.ofList title) := by
  refine ⟨?_, fun hcancels => ?_⟩
  · rw [Rules.customTitle?_eq_answer?] at h
    exact (titleOf_of_answer? h network indexes usual).symm
  · have hnone := hcancels.1
    rw [h] at hnone
    cases hnone

/-- Where no rule knows the title, the page has it unless it cancels the search. -/
theorem findsTitle_of_page {rules : Rules} {network : Network} {indexes : Text.Indexes}
    {usual : Nat} {url : String} {raw : Option (List Char)}
    (h : rules.customTitle? url.toList = none)
    (hraw : network.rawTitle? indexes (rules.scanLimitFor url.toList usual) url = raw)
    (hcancels : ¬ network.Cancels indexes (rules.scanLimitFor url.toList usual) url) :
    FindsTitle rules network indexes usual url (nameFor url (rules.polished? raw)) := by
  refine ⟨?_, fun hsearch => hcancels hsearch.2⟩
  rw [Rules.customTitle?_eq_answer?] at h
  rw [titleOf_of_answer?_eq_none h, hraw]

namespace Desk

/-- Whether the search for the title of a link ends with this one. -/
def Finds (desk : Desk) (url title : String) : Prop :=
  FindsTitle desk.rules desk.network desk.indexes desk.scanLimit url title

/-- The title that stands on the page of a link, as far as it is looked for. -/
def rawTitle? (desk : Desk) (url : String) : Option (List Char) :=
  desk.network.rawTitle? desk.indexes (desk.rules.scanLimitFor url.toList desk.scanLimit) url

/-- Whether the page of a link reports that reading it was cancelled. -/
def PageCancels (desk : Desk) (url : String) : Prop :=
  desk.network.Cancels desk.indexes (desk.rules.scanLimitFor url.toList desk.scanLimit) url

/-- A group is started on only while it is in sight. -/
def Sees (desk : Desk) (task : Task GroupId) : Prop :=
  task = .start task.job → desk.board.isVisible task.job

/-- The ends a task comes to, but for metrics and the addresses opened. -/
inductive Performs (desk : Desk) (task : Task GroupId) : Desk × Progress → Prop where
  | waits (cluster : Cluster) (opened : List String) (gate : Option String)
      (hcluster : desk.board.cluster? task.job = some cluster)
      (hrules : task = .start task.job → desk.rules.customTitle? cluster.url.toList = none)
      (hsight : desk.Sees task) :
      Performs desk task ({ desk with opened := opened }, .waits gate)
  | nothing (hreason : desk.isStopped ∨ desk.board.cluster? task.job = none) :
      Performs desk task (desk, .finished)
  | hidden (hvisible : desk.board.isVisible task.job = false) :
      Performs desk task (desk.giveUp task.job, .finished)
  | stopped (hstopped : desk.isStopped) :
      Performs desk task (desk.giveUp task.job, .finished)
  | cancelled (cluster : Cluster) (opened : List String)
      (hcluster : desk.board.cluster? task.job = some cluster)
      (hrules : task = .start task.job → desk.rules.customTitle? cluster.url.toList = none)
      (hcancels : desk.PageCancels cluster.url) :
      Performs desk task (({ desk with opened := opened }).giveUp task.job, .finished)
  | resolved (cluster : Cluster) (opened : List String) (metrics : Metrics) (title : String)
      (outcome : Outcome) (hcluster : desk.board.cluster? task.job = some cluster)
      (hrunning : desk.isStopped = false) (hsight : desk.Sees task)
      (hfinds : (task = .resume task.job → desk.rules.customTitle? cluster.url.toList = none) →
        desk.Finds cluster.url title) :
      Performs desk task
        (({ desk with opened := opened, metrics := metrics }).resolved task.job cluster.url title
          outcome, .finished)

/-- The title that a page leads to is what is left of its own, or else the link. -/
theorem resolvedFromPage_eq (desk : Desk) (id : GroupId) (url : String)
    (raw : Option (List Char)) :
    ∃ outcome, desk.resolvedFromPage id url raw =
      desk.resolved id url (nameFor url (desk.rules.polished? raw)) outcome := by
  unfold resolvedFromPage
  cases raw with
  | none => exact ⟨.fallback, rfl⟩
  | some raw =>
    simp only
    split
    · rename_i hempty
      have hnone : desk.rules.polished? (some raw) = none := by
        simp [Rules.polished?, Option.filter, hempty]
      exact ⟨.fallback, by rw [hnone]; rfl⟩
    · rename_i hsome
      have htitle : desk.rules.polished? (some raw) = some (desk.rules.postProcess raw) := by
        simp [Rules.polished?, Option.filter, hsome]
      exact ⟨.fetched, by rw [htitle]; rfl⟩

section

variable {desk : Desk} {task : Task GroupId} {cluster : Cluster} (opened : List String)
  (hcluster : desk.board.cluster? task.job = some cluster)
  (hrules : task = .start task.job → desk.rules.customTitle? cluster.url.toList = none)
  (hrunning : desk.isStopped = false) (hsight : desk.Sees task)

include hcluster hrules hrunning hsight

/-- The title found on a page is that of the link, unless a rule knows it. -/
theorem performs_resolved (metrics : Metrics) {raw : Option (List Char)} {title : String}
    (outcome : Outcome)
    (hraw : desk.rawTitle? cluster.url = raw)
    (hname : nameFor cluster.url (desk.rules.polished? raw) = title)
    (hcancels : ¬ desk.PageCancels cluster.url) :
    Performs desk task
      (({ desk with opened := opened, metrics := metrics }).resolved task.job cluster.url title
        outcome, .finished) := by
  subst hname
  refine .resolved cluster opened metrics _ outcome hcluster hrunning hsight fun hresume => ?_
  have hunknown : desk.rules.customTitle? cluster.url.toList = none := by
    cases task with
    | start id => exact hrules rfl
    | resume id => exact hresume rfl
  exact findsTitle_of_page hunknown hraw hcancels

theorem performs_resolvedFromPage (metrics : Metrics) {raw : Option (List Char)}
    (hraw : desk.rawTitle? cluster.url = raw)
    (hcancels : ¬ desk.PageCancels cluster.url) :
    Performs desk task
      (({ desk with opened := opened, metrics := metrics }).resolvedFromPage task.job cluster.url
        raw, .finished) := by
  obtain ⟨outcome, heq⟩ := resolvedFromPage_eq
    { desk with opened := opened, metrics := metrics } task.job cluster.url raw
  rw [heq]
  exact performs_resolved opened hcluster hrules hrunning hsight metrics outcome hraw rfl hcancels

theorem performs_afterFailure {error : NetworkError}
    (hraw : desk.rawTitle? cluster.url = none)
    (hcancels : desk.PageCancels cluster.url ↔ error = .cancelled) :
    Performs desk task
      (({ desk with opened := opened }).afterFailure task.job cluster.url error, .finished) := by
  unfold afterFailure
  split
  · exact .cancelled cluster opened hcluster hrules (hcancels.mpr rfl)
  · rename_i hother
    exact performs_resolved opened hcluster hrules hrunning hsight desk.metrics .failed hraw rfl
      fun hsearch => hother (hcancels.mp hsearch)

theorem performs_afterReply :
    Performs desk task (({ desk with opened := opened }).afterReply task.job cluster.url) := by
  unfold afterReply
  cases hanswer : (desk.network cluster.url).answer with
  | error error =>
    refine performs_afterFailure opened hcluster hrules hrunning hsight ?_ ?_
    · rw [rawTitle?, Network.rawTitle?, hanswer]
    · rw [PageCancels, Network.Cancels, hanswer]
  | ok page =>
    simp only
    split
    · rename_i hhtml
      let limit := desk.rules.scanLimitFor cluster.url.toList desk.scanLimit
      have hraw : desk.rawTitle? cluster.url = (page.read limit desk.indexes).title? := by
        rw [rawTitle?, Network.rawTitle?, hanswer, page.title?_read]
        exact if_pos hhtml
      cases hread : page.read limit desk.indexes with
      | read title consumed =>
        rw [hread] at hraw
        refine performs_resolvedFromPage opened hcluster hrules hrunning hsight _ hraw ?_
        simp [PageCancels, Network.Cancels, hanswer, hread, limit]
      | failed error =>
        rw [hread] at hraw
        refine performs_afterFailure opened hcluster hrules hrunning hsight hraw ?_
        simp [PageCancels, Network.Cancels, hanswer, hread, hhtml, limit]
      | stalled => exact .waits cluster opened none hcluster hrules hsight
    · rename_i hhtml
      refine performs_resolvedFromPage opened hcluster hrules hrunning hsight desk.metrics ?_ ?_
      · rw [rawTitle?, Network.rawTitle?, hanswer]
        exact if_neg hhtml
      · simp [PageCancels, Network.Cancels, hanswer, hhtml]

end

theorem performs (task : Task GroupId) (desk : Desk) :
    Performs desk task (perform task desk) := by
  cases task with
  | start id =>
    show Performs desk (.start id) (desk.start id)
    unfold start
    by_cases hstopped : desk.isStopped
    · rw [if_pos hstopped]
      exact .nothing (.inl hstopped)
    · rw [if_neg hstopped]
      have hrunning : desk.isStopped = false := by simpa using hstopped
      by_cases hvisible : desk.board.isVisible id
      · rw [if_neg (by simp [hvisible])]
        have hsight : desk.Sees (.start id) := fun _ => hvisible
        cases hcluster : desk.board.cluster? id with
        | none => exact .nothing (.inr hcluster)
        | some cluster =>
          simp only
          cases hcustom : desk.rules.customTitle? cluster.url.toList with
          | some title =>
            exact .resolved cluster desk.opened desk.metrics _ _ hcluster hrunning hsight
              fun _ => findsTitle_of_customTitle? hcustom ..
          | none =>
            simp only
            unfold openPage
            simp only
            split
            · exact .waits cluster _ _ hcluster (fun _ => hcustom) hsight
            · exact performs_afterReply _ hcluster (fun _ => hcustom) hrunning hsight
      · rw [if_pos (by simp [hvisible])]
        have hhidden : desk.board.isVisible id = false := by simpa using hvisible
        exact .hidden hhidden
  | resume id =>
    show Performs desk (.resume id) (desk.resume id)
    unfold resume
    by_cases hstopped : desk.isStopped
    · rw [if_pos hstopped]
      exact .stopped hstopped
    · rw [if_neg hstopped]
      cases hcluster : desk.board.cluster? id with
      | none => exact .nothing (.inr hcluster)
      | some cluster =>
        exact performs_afterReply desk.opened hcluster (fun h => nomatch h)
          (by simpa using hstopped) fun h => nomatch h

/-! ## What searches leave as it is -/

/-- Only titles and searches differ on the board, no event is lost or sent but
updates, and what was stopped stays so. -/
structure Quiet (before after : Desk) : Prop where
  rules : after.rules = before.rules
  network : after.network = before.network
  indexes : after.indexes = before.indexes
  scanLimit : after.scanLimit = before.scanLimit
  board : before.board.SameOutline after.board
  record : after.outbox.record = before.outbox.record
  isStopped : before.isStopped → after.isStopped

theorem Quiet.refl (desk : Desk) : Quiet desk desk := ⟨rfl, rfl, rfl, rfl, .refl _, rfl, id⟩

theorem Quiet.trans {a b c : Desk} (h : Quiet a b) (h' : Quiet b c) : Quiet a c :=
  ⟨h'.rules.trans h.rules, h'.network.trans h.network, h'.indexes.trans h.indexes,
    h'.scanLimit.trans h.scanLimit, h.board.trans h'.board, h'.record.trans h.record,
    h'.isStopped ∘ h.isStopped⟩

/-- What runs in the end has been running. -/
theorem Quiet.running {before after : Desk} (h : Quiet before after)
    (hrunning : after.isStopped = false) : before.isStopped = false := by
  cases hstopped : before.isStopped with
  | false => rfl
  | true =>
    rw [h.isStopped hstopped] at hrunning
    cases hrunning

theorem log_announce {desk : Desk} {id : GroupId} {view : GroupView}
    (hview : desk.board.view? id = some view) :
    (desk.announce id).outbox.log = desk.outbox.log ++
      if desk.outbox.passes (.groupUpdated view) then [.groupUpdated view] else [] := by
  unfold announce
  rw [hview]
  exact Outbox.log_send ..

/-- A desk with other events is as before if these are updates. -/
theorem quiet_of_outbox {desk : Desk} {outbox : Outbox}
    (hrecord : outbox.record = desk.outbox.record)
    (hstopped : desk.outbox.isStopped → outbox.isStopped) :
    Quiet desk { desk with outbox := outbox } :=
  ⟨rfl, rfl, rfl, rfl, .refl _, hrecord, hstopped⟩

theorem quiet_announce (desk : Desk) (id : GroupId) : Quiet desk (desk.announce id) := by
  unfold announce
  split
  · rename_i view _
    have hupdate : lasting [.groupUpdated view] = [] := rfl
    refine quiet_of_outbox ?_ (Outbox.isStopped_send ..).trans
    rw [Outbox.record_send, hupdate, List.append_nil]
  · exact .refl desk

/-- A desk whose board has only other titles and searches is as before to the reader. -/
theorem quiet_of_board {desk : Desk} {board : Board} (h : desk.board.SameOutline board)
    (cache : TitleCache) (metrics : Metrics) (opened : List String) :
    Quiet desk { desk with board := board, cache := cache, metrics := metrics, opened := opened } :=
  ⟨rfl, rfl, rfl, rfl, h, rfl, id⟩

theorem quiet_giveUp (desk : Desk) (id : GroupId) : Quiet desk (desk.giveUp id) :=
  quiet_of_board (desk.board.sameOutline_giveUp id) ..

theorem quiet_resolved (desk : Desk) (id : GroupId) (url title : String) (outcome : Outcome) :
    Quiet desk (desk.resolved id url title outcome) := by
  have hboard := (desk.board.sameOutline_setTitle id title).trans
    (Board.sameOutline_markResolved _ id)
  exact (quiet_of_board hboard ..).trans (quiet_announce _ id)

theorem Performs.quiet {desk : Desk} {task : Task GroupId} {result : Desk × Progress}
    (h : Performs desk task result) : Quiet desk result.1 := by
  cases h with
  | waits cluster opened gate => exact quiet_of_board (.refl _) ..
  | nothing => exact .refl desk
  | hidden => exact quiet_giveUp desk _
  | stopped => exact quiet_giveUp desk _
  | cancelled cluster opened =>
    exact (quiet_of_board (.refl _) desk.cache desk.metrics opened).trans (quiet_giveUp _ _)
  | resolved cluster opened metrics title outcome =>
    exact (quiet_of_board (.refl _) desk.cache metrics opened).trans (quiet_resolved ..)

end Desk

end LinkDigest
