import LinkDigest.Proofs.Board.Flags
import LinkDigest.Proofs.Board.Identity
import LinkDigest.Proofs.Filter.Strictness
import LinkDigest.Proofs.Scan.Aggregation
import LinkDigest.Proofs.Session.Review

/-!
# What a session shows

After a scan or a review that was carried out, the groups in sight are those on the list,
and all of them are known: no group of an earlier scan is in sight any more. Only a scan
whose clusters could not be filtered may leave groups on the list that are out of sight.
-/

namespace LinkDigest

/-- The earliest times that a filter may ask for are dates. -/
def Instant.Reaches (now : Instant) : Prop :=
  ∀ time : TimeOption, ∀ age ∈ time.maxAge?, (now.shift (-(age : Nat))).hasDate

namespace Session

/-- At any time the last scan has found no link twice, and the groups that are shown are
listed and known. -/
structure InOrder (session : Session) : Prop where
  sound : session.board.Sound
  nodup : (session.found.map fun link => session.board.urls[link]?).Nodup
  listed : session.board.Listed
  known : ∀ id, session.board.isVisible id → ∃ url, session.board.find? url = some id

variable {session next : Session} {action : Action} {now : Instant}

theorem inOrder_new (config : Config) (rules : Rules) (network : Network) (metrics : Metrics)
    (filter : Filter) (indexes : Text.Indexes) :
    (new config rules network metrics filter indexes).InOrder where
  sound := .empty
  nodup := List.nodup_nil
  listed _ h := nomatch h
  known _ h := nomatch h

/-- Searches and titles have no part in it. -/
theorem InOrder.of_outline (h : session.InOrder) {resolver : Resolver}
    (hsame : session.board.SameOutline resolver.desk.board) :
    InOrder { session with resolver := resolver } where
  sound := hsame.sound h.sound
  nodup := by
    show (session.found.map fun link => resolver.desk.board.urls[link]?).Nodup
    rw [hsame.urls]
    exact h.nodup
  listed id hvisible := by
    show id ∈ resolver.desk.board.visible
    rw [hsame.visible]
    exact h.listed id ((hsame.isVisible_iff id).mp hvisible)
  known id hvisible := by
    obtain ⟨url, hurl⟩ := h.known id ((hsame.isVisible_iff id).mp hvisible)
    exact ⟨url, (hsame.find? url).trans hurl⟩

/-! ## Scans -/

/-- The links of the clusters of a scan are those that it found. -/
theorem urls_store (session : Session) (clusters : List Cluster) :
    ((session.store clusters).found.map fun link => (session.store clusters).board.urls[link]?) =
      (clusters.map Cluster.url).map some := by
  have hplace : ∀ i, (session.store clusters).board.urls[
      (session.board.retain (clusters.map Cluster.url)).nextLink + i]? =
        (clusters.map Cluster.url)[i]? := Board.urls_addLinks _ clusters
  show (((List.range clusters.length).map _).map fun link => _) = _
  rw [List.map_map]
  refine (List.map_congr_left fun i _ => hplace i).trans ?_
  apply List.ext_getElem?
  intro i
  rcases Nat.lt_or_ge i clusters.length with hlt | hge
  · simp [hlt]
  · simp [hge]

theorem InOrder.store (h : session.InOrder) {clusters : List Cluster}
    (hnodup : (clusters.map Cluster.url).Nodup) : (session.store clusters).InOrder where
  sound := sound_store h.sound clusters
  nodup := by
    rw [urls_store]
    exact hnodup.map (Option.some_injective _)
  listed id hvisible := by
    have hbefore := (session.board.isVisible_retain (clusters.map Cluster.url) id).mp hvisible
    show id ∈ (session.board.retain (clusters.map Cluster.url)).visible
    simpa using h.listed id hbefore.1
  known id hvisible := by
    obtain ⟨hbefore, hkept⟩ :=
      (session.board.isVisible_retain (clusters.map Cluster.url) id).mp hvisible
    obtain ⟨url, hurl⟩ := h.known id hbefore
    -- A group that is forgotten goes out of sight.
    have hfound : url ∈ clusters.map Cluster.url := by
      by_contra hgone
      have hmem : (url, id) ∈ session.board.known := Board.mem_of_lookup hurl
      exact hkept (List.mem_map.mpr ⟨_, List.mem_filter.mpr ⟨hmem, by simpa using hgone⟩, rfl⟩)
    refine ⟨url, ?_⟩
    show (session.board.retain (clusters.map Cluster.url)).find? url = some id
    rw [Board.find?_retain, if_pos hfound, hurl]

/-! ## Reviews -/

/-- The groups taken for clusters of different links are all known in the end. -/
theorem known_postAll {board : Board} (hsound : board.Sound) {entries : List Entry}
    (hlinks : ∀ entry ∈ entries, entry.link < board.links.length)
    (hnodup : (entries.map fun entry => board.urls[entry.link]?).Nodup) :
    ∀ id ∈ (postAll board entries).1, ∃ url, (postAll board entries).2.find? url = some id := by
  -- That the links differ goes into the induction: one entry would take the place of another
  -- of its link. And the links are those of the board before, which no group changes.
  have hknown := (postAll_induction (P := fun entries ids next => next.urls = board.urls ∧
    ((entries.map fun entry => board.urls[entry.link]?).Nodup → ∀ id ∈ ids, ∃ entry ∈ entries,
      ∃ url, board.urls[entry.link]? = some url ∧ next.find? url = some id))
    ⟨rfl, fun _ _ hid => absurd hid List.not_mem_nil⟩ ?_ hsound entries hlinks).1.2 hnodup
  · intro id hid
    obtain ⟨-, -, url, -, hfind⟩ := hknown id hid
    exact ⟨url, hfind⟩
  · rintro entries ids before entry id next ⟨hurls, hbefore⟩ hgiven
    obtain ⟨cluster, hcluster, -⟩ := hgiven.gives
    have hurl := Board.urls_eq hcluster
    have hnumbers := hgiven.numbers hurl
    rw [hurls] at hurl
    refine ⟨?_, fun hnodup place hplace => ?_⟩
    · show next.urls = board.urls
      rw [← hurls, Board.urls, hgiven.links, Board.urls]
    · rw [List.map_append, List.nodup_append] at hnodup
      obtain ⟨hnodup, -, hnew⟩ := hnodup
      rcases List.mem_append.mp hplace with hold | hlast
      · obtain ⟨other, hother, link, hlink, hfind⟩ := hbefore hnodup place hold
        have hne : link ≠ cluster.url := by
          rintro rfl
          exact hnew _ (List.mem_map_of_mem hother) _ List.mem_cons_self (hlink.trans hurl.symm)
        exact ⟨other, List.mem_append_left _ hother, link, hlink,
          (hnumbers.find? link).trans ((if_neg hne).trans hfind)⟩
      · rw [List.mem_singleton.mp hlast]
        exact ⟨entry, by simp, cluster.url, hurl, (hnumbers.find? _).trans (if_pos rfl)⟩

/-- When its groups have been announced, a review shows just these. -/
theorem InOrder.tidy_announced (h : session.InOrder) (now : Instant) :
    (session.announced now).2.desk.board.Tidy := by
  have hlinks : ∀ entry ∈ (session.entries now).take session.config.maxDisplayed,
      entry.link < session.board.links.length := fun _ hentry => lt_of_mem_entries hentry
  -- Taking groups hides some and shows none, so those to be hidden are all on the list.
  have hlisted := (postAll_induction (P := fun _ _ next => next.Listed) h.listed
    (fun _ _ _ _ _ _ hbefore hgiven =>
      (hbefore.does (.give hgiven)).does (.setItems _ _)) h.sound _ hlinks).1
  have hnodup : (((session.entries now).take session.config.maxDisplayed).map fun entry =>
      session.board.urls[entry.link]?).Nodup := by
    have hsublist := ((List.take_sublist session.config.maxDisplayed (session.entries now)).map
      Entry.link).trans (session.links_entries now)
    have hurls := hsublist.map fun link => session.board.urls[link]?
    rw [List.map_map] at hurls
    exact h.nodup.sublist hurls
  rw [announced_board]
  constructor
  · exact hlisted.isVisible_replaceVisible (lt_of_mem_postAll h.sound hlinks)
  · intro id hid
    obtain ⟨url, hurl⟩ := known_postAll h.sound hlinks hnodup id hid
    refine ⟨url, ?_⟩
    simpa [Board.find?] using hurl

theorem InOrder.announced (h : session.InOrder) (now : Instant) :
    InOrder { session with resolver := (session.announced now).2 } := by
  have htidy := h.tidy_announced now
  obtain ⟨hsound, hlinks⟩ := sound_announced h.sound now
  refine ⟨hsound, ?_, fun id => (htidy.shown id).mp, fun id hvisible => ?_⟩
  · show (session.found.map fun link => (session.announced now).2.desk.board.urls[link]?).Nodup
    rw [Board.urls, hlinks]
    exact h.nodup
  · exact htidy.known id ((htidy.shown id).mp hvisible)

theorem InOrder.reviewed (h : session.InOrder) (now : Instant) :
    (session.reviewed now).InOrder ∧ (session.reviewed now).board.Tidy := by
  have hquiet := (Resolver.quiet_resolveAll (session.announced now).2
    (session.announced now).1).board
  exact ⟨(h.announced now).of_outline hquiet, (h.tidy_announced now).of_outline hquiet⟩

/-! ## Whatever is done -/

theorem InOrder.prepares (h : session.InOrder) (hprepares : session.Prepares action next now) :
    next.InOrder := by
  cases hprepares with
  | scan hresult => exact h.store (Scan.nodup_urls_of_run? hresult)
  | setFilter => exact ⟨h.sound, h.nodup, h.listed, h.known⟩
  | review => exact h

theorem InOrder.act (h : session.InOrder) (action : Action) : (session.act action).InOrder := by
  cases hprepared : session.prepared? action with
  | none =>
    obtain ⟨-, -, hact⟩ := act_of_prepared?_eq_none hprepared
    rcases hact with hact | ⟨pipeline, hact⟩ | ⟨step, -, hact⟩
    · rw [hact]
      exact h
    · rw [hact]
      exact ⟨h.sound, h.nodup, h.listed, h.known⟩
    · rw [hact]
      exact h.of_outline (session.resolver.quiet_act step).board
  | some found =>
    obtain ⟨next, now⟩ := found
    rw [(act_of_prepared? hprepared).1]
    have hnext := h.prepares (prepares_of_prepared? hprepared).2
    rcases next.reviewRunning_cases now with ⟨-, hreviewed⟩ | ⟨-, hsame⟩
    · rw [hreviewed]
      exact (hnext.reviewed now).1
    · rw [hsame]
      exact hnext

/-- After a scan or a review that was carried out the groups listed are those shown. -/
theorem InOrder.tidy_of_succeeds (h : session.InOrder) (hsucceeds : session.succeeds action) :
    (session.act action).board.Tidy := by
  cases hprepared : session.prepared? action with
  | none =>
    rw [(act_of_prepared?_eq_none hprepared).1] at hsucceeds
    cases hsucceeds
  | some found =>
    obtain ⟨next, now⟩ := found
    obtain ⟨hact, hok⟩ := act_of_prepared? hprepared
    rw [hact]
    rcases next.reviewRunning_cases now with ⟨-, hreviewed⟩ | ⟨hfails, -⟩
    · rw [hreviewed]
      exact ((h.prepares (prepares_of_prepared? hprepared).2).reviewed now).2
    · rw [hok, hfails] at hsucceeds
      cases hsucceeds

theorem reviewRunning_of_reaches (session : Session) (hreaches : now.Reaches) :
    (session.reviewRunning now).1.isOk := by
  unfold reviewRunning
  rw [session.pipeline.visible?_eq_some (hreaches session.filter.time) session.clusters]
  rfl

/-- They are so after any other action as well, but for a scan that fails halfway. -/
theorem InOrder.tidy_act (h : session.InOrder) (htidy : session.board.Tidy)
    (hreaches : ∀ corpus now, action = .scan corpus now → now.Reaches) :
    (session.act action).board.Tidy := by
  cases hprepared : session.prepared? action with
  | none =>
    obtain ⟨-, -, hact⟩ := act_of_prepared?_eq_none hprepared
    rcases hact with hact | ⟨pipeline, hact⟩ | ⟨step, -, hact⟩
    · rw [hact]
      exact htidy
    · rw [hact]
      exact htidy
    · rw [hact]
      exact htidy.of_outline (session.resolver.quiet_act step).board
  | some found =>
    obtain ⟨next, now⟩ := found
    obtain ⟨hact, hok⟩ := act_of_prepared? hprepared
    rcases next.reviewRunning_cases now with ⟨hdone, -⟩ | ⟨hfails, hsame⟩
    · exact h.tidy_of_succeeds (hok.trans hdone)
    · rw [hact, hsame]
      cases (prepares_of_prepared? hprepared).2 with
      | scan =>
        -- Groups would be forgotten and stay on the list, but such a scan does not fail.
        rw [reviewRunning_of_reaches _ (hreaches _ now rfl)] at hfails
        cases hfails
      | setFilter => exact htidy
      | review => exact htidy

end Session

/-- What is shown and what is listed. Whatever is done with a board, no group there has ever
been is shown that is not listed, and just after groups have been listed exactly these are
shown. In a session the groups shown are listed and known at any time; after a scan or a
review that was carried out all that are listed are shown, and so they are at any time if no
scan fails for want of a date. -/
theorem Session.run_shows (moves : List Board.Action) (config : Config) (rules : Rules)
    (network : Network) (metrics : Metrics) (filter : Filter) (indexes : Text.Indexes)
    (actions : List Session.Action) :
    let board := (Board.run moves).board
    let session := ((Course.start config rules network metrics filter indexes).run actions).session
    (∀ id, board.isVisible id → id ∈ board.visible) ∧
    (∀ ids, (∀ id ∈ ids, id < board.groups.length) →
      ∀ id, (Board.run (moves ++ [.replaceVisible ids])).board.isVisible id ↔ id ∈ ids) ∧
    session.visible.map some = session.board.visible.map session.board.view? ∧
    (∀ id, session.board.isVisible id →
      id ∈ session.board.visible ∧ ∃ url, session.board.find? url = some id) ∧
    (∀ action, session.succeeds action → (session.act action).board.Tidy) ∧
    ((∀ corpus now, .scan corpus now ∈ actions → now.Reaches) → session.board.Tidy) := by
  intro board session
  have hlisted := Board.listed_run moves
  have horder : session.InOrder := Course.run_induction (P := fun course => course.session.InOrder)
    (fun _ action h => h.act action) actions _
    (Session.inOrder_new config rules network metrics filter indexes)
  refine ⟨hlisted, ?_, horder.sound.visibleViews,
    fun id hvisible => ⟨horder.listed id hvisible, horder.known id hvisible⟩,
    fun action => horder.tidy_of_succeeds, ?_⟩
  · intro ids hids id
    have hact : (Board.run (moves ++ [.replaceVisible ids])).board = board.replaceVisible ids := by
      rw [Board.run_concat]
      exact if_pos (List.all_eq_true.mpr fun id hid => decide_eq_true (hids id hid))
    rw [hact]
    exact hlisted.isVisible_replaceVisible hids id
  · intro hreaches
    have hstart : (Session.new config rules network metrics filter indexes).InOrder ∧
        (Session.new config rules network metrics filter indexes).board.Tidy :=
      ⟨Session.inOrder_new config rules network metrics filter indexes, .empty⟩
    refine (Course.run_induction_of_mem
      (P := fun course => course.session.InOrder ∧ course.session.board.Tidy)
      (fun course action hmem h => ?_) hstart).2
    exact ⟨h.1.act action, h.1.tidy_act h.2 fun corpus now heq => hreaches corpus now (heq ▸ hmem)⟩

end LinkDigest
