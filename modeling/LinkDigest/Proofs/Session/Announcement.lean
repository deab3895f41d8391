import LinkDigest.Proofs.Session.Review

/-!
# What the reader is told

Whatever is done with a session, the reader is told the outcome of each review
and of no other: the list begins anew, and then come the groups of the review,
each with its articles. What has been told since the list last began is what is
shown.
-/

namespace LinkDigest

/-! ## The reference -/

/-- Events that tell of one cluster: of its group and then of its articles. -/
def AnnouncesCluster (shown : VisibleCluster) (events : List Event) : Prop :=
  ∃ view : GroupView,
    view.url = shown.cluster.url ∧ view.title = shown.cluster.displayName ∧
    view.average = shown.cluster.average ∧
    view.referenceCount = shown.cluster.referenceCount ∧
    view.shownReferences = shown.articles.length ∧
    events = .groupAdded view ::
      shown.articles.map fun article => .itemAdded view.seq (.ofArticle article)

/-- Events that begin the list anew and then tell of some clusters in their order. -/
def AnnouncesReview (selection : List VisibleCluster) (events : List Event) : Prop :=
  ∃ groups, List.Forall₂ AnnouncesCluster selection groups ∧ events = .cleared :: groups.flatten

/-- Events that tell of reviews one after the other. -/
def AnnouncesAll (reviews : List (List VisibleCluster)) (events : List Event) : Prop :=
  ∃ blocks, List.Forall₂ AnnouncesReview reviews blocks ∧ events = blocks.flatten

/-- The groups told of when one more event has been. -/
def tell (groups : List GroupView) : Event → List GroupView
  | .cleared => []
  | .groupAdded view => groups ++ [view]
  | .itemAdded .. | .groupUpdated _ => groups

/-- The groups told of since the list last began anew. -/
def groupsTold (events : List Event) : List GroupView := events.foldl tell []

/-- All that the reader has been told when nothing is on its way any more. -/
def Session.told (session : Session) : List Event :=
  session.resolver.deliver.desk.outbox.delivered

/-! ## Telling of one review -/

theorem AnnouncesAll.append {reviews : List (List VisibleCluster)} {events next : List Event}
    {selection : List VisibleCluster} (h : AnnouncesAll reviews events)
    (hnext : AnnouncesReview selection next) :
    AnnouncesAll (reviews ++ [selection]) (events ++ next) := by
  obtain ⟨blocks, hblocks, rfl⟩ := h
  refine ⟨blocks ++ [next], List.rel_append hblocks (.cons hnext .nil), ?_⟩
  rw [List.flatten_append, List.flatten_singleton]

/-- Updates tell of no group. -/
@[simp] theorem groupsTold_lasting (events : List Event) :
    groupsTold (lasting events) = groupsTold events := by
  -- The fold goes on from whatever was told before.
  have hfold : ∀ groups : List GroupView,
      (lasting events).foldl tell groups = events.foldl tell groups := by
    induction events with
    | nil => exact fun _ => rfl
    | cons event rest ih =>
      intro groups
      have hrest : ∀ groups, (lasting rest).foldl tell groups = rest.foldl tell groups := ih
      cases event with
      | cleared => exact hrest []
      | groupAdded view => exact hrest (groups ++ [view])
      | itemAdded seq item => exact hrest groups
      | groupUpdated view => exact hrest groups
  exact hfold []

theorem foldl_tell_items (seq : Nat) (items : List ItemView) (groups : List GroupView) :
    (items.map fun item => Event.itemAdded seq item).foldl tell groups = groups := by
  induction items with
  | nil => rfl
  | cons item rest ih => exact ih

namespace Session

theorem foldl_tell_announcement (board : Board) (id : GroupId) (groups : List GroupView) :
    (announcement board id).foldl tell groups = groups ++ (board.view? id).toList := by
  unfold announcement
  cases board.view? id with
  | none => simp
  | some view =>
    simp only [List.foldl_cons, tell, Option.toList_some]
    exact foldl_tell_items view.seq (board.itemViews id) (groups ++ [view])

/-- After the groups of a review have been told of, just these have been. -/
theorem groupsTold_announced (events : List Event) (board : Board) (ids : List GroupId) :
    groupsTold (events ++ .cleared :: ids.flatMap (announcement board)) =
      ids.filterMap board.view? := by
  have hfold : ∀ groups : List GroupView,
      (ids.flatMap (announcement board)).foldl tell groups =
        groups ++ ids.filterMap board.view? := by
    induction ids with
    | nil => simp
    | cons id rest ih =>
      intro groups
      rw [List.flatMap_cons, List.foldl_append, foldl_tell_announcement, ih, List.append_assoc]
      cases hview : board.view? id <;> simp [hview]
  unfold groupsTold
  rw [List.foldl_append, List.foldl_cons]
  exact hfold []

theorem mem_announcement {board : Board} {id : GroupId} {event : Event}
    (h : event ∈ announcement board id) :
    (∃ view, board.view? id = some view ∧ event = .groupAdded view) ∨
      ∃ seq item, event = .itemAdded seq item := by
  unfold announcement at h
  split at h
  · rename_i view hview
    rcases List.mem_cons.mp h with rfl | hitem
    · exact .inl ⟨view, hview, rfl⟩
    · obtain ⟨item, -, rfl⟩ := List.mem_map.mp hitem
      exact .inr ⟨view.seq, item, rfl⟩
  · cases h

/-- A review tells of no update. -/
theorem isUpdate_announced (board : Board) (ids : List GroupId) :
    ∀ event ∈ Event.cleared :: ids.flatMap (announcement board), event.isUpdate = false := by
  intro event hevent
  rcases List.mem_cons.mp hevent with rfl | hgroup
  · rfl
  · obtain ⟨id, -, hevent⟩ := List.mem_flatMap.mp hgroup
    rcases mem_announcement hevent with ⟨view, -, rfl⟩ | ⟨seq, item, rfl⟩ <;> rfl

theorem lasting_announced (board : Board) (ids : List GroupId) :
    lasting (.cleared :: ids.flatMap (announcement board)) =
      .cleared :: ids.flatMap (announcement board) :=
  lasting_eq_self (isUpdate_announced board ids)

/-- A review is told of after all that was told before. -/
theorem log_announced (session : Session) (now : Instant) :
    (session.announced now).2.desk.outbox.log = session.resolver.desk.outbox.log ++
      .cleared :: (session.announced now).1.flatMap
        (announcement (session.announced now).2.desk.board) :=
  Outbox.log_sendAll _ (isUpdate_announced _ _)

theorem record_announced (session : Session) (now : Instant) :
    (session.announced now).2.desk.outbox.record = session.resolver.desk.outbox.record ++
      .cleared :: (session.announced now).1.flatMap
        (announcement (session.announced now).2.desk.board) := by
  show lasting (session.announced now).2.desk.outbox.log = _
  rw [log_announced, lasting_append, lasting_announced]
  rfl

/-- The announcement of a group that has a cluster's articles tells of the cluster. -/
theorem Posted.announces {board : Board} {entry : Entry} {id : GroupId} {shown : VisibleCluster}
    (h : Posted board entry id) (hcluster : board.links[entry.link]? = some shown.cluster)
    (harticles : entry.articles = shown.articles) :
    AnnouncesCluster shown (announcement board id) := by
  obtain ⟨group, hgroup, hlink, hitems⟩ := h
  have hview := Board.view?_eq hgroup (hlink ▸ hcluster)
  refine ⟨group.view shown.cluster, rfl, rfl, rfl, rfl, ?_, ?_⟩
  · rw [← harticles, ← hitems]
    rfl
  · unfold announcement
    rw [hview]
    simp only
    rw [Board.itemViews_eq hgroup, hitems, harticles, List.map_map]
    rfl

/-- Two lists that go along with a third go along with each other. -/
theorem forall₂_of_common {α β γ : Type} {R : α → β → Prop} {S : α → γ → Prop}
    {T : β → γ → Prop} (h : ∀ a b c, R a b → S a c → T b c) {as : List α} {bs : List β}
    {cs : List γ} (hR : List.Forall₂ R as bs) (hS : List.Forall₂ S as cs) :
    List.Forall₂ T bs cs := by
  induction hR generalizing cs with
  | nil =>
    cases hS
    exact .nil
  | cons hab _ ih =>
    cases hS with
    | cons hac hrest => exact .cons (h _ _ _ hab hac) (ih hrest)

theorem announces_announced {session : Session} (hsound : session.board.Sound)
    (hnodup : session.found.Nodup) (now : Instant) :
    AnnouncesReview (session.selection now)
      (.cleared :: (session.announced now).1.flatMap
        (announcement (session.announced now).2.desk.board)) := by
  have hlinks := (sound_announced hsound now).2
  refine ⟨(session.announced now).1.map (announcement (session.announced now).2.desk.board),
    ?_, rfl⟩
  rw [List.forall₂_map_right_iff]
  refine forall₂_of_common ?_ (session.entries_selection now) (posted_announced hsound hnodup now)
  intro entry shown id hshown hposted
  exact hposted.announces (hlinks ▸ hshown.1) hshown.2

end Session

/-! ## Telling of all reviews -/

/-- What is so after any number of actions. -/
structure Course.Told (course : Course) : Prop where
  sound : course.session.board.Sound
  /-- No cluster of the last scan is listed twice. -/
  nodup : course.session.found.Nodup
  clusters : course.session.clusters.map Cluster.untitled = course.scanned.map Cluster.untitled
  record : AnnouncesAll course.reviews course.session.resolver.desk.outbox.record
  visible : (groupsTold course.session.resolver.desk.outbox.record).map GroupView.key =
    course.session.visible.map GroupView.key

namespace Course.Told

theorem start (config : Config) (rules : Rules) (network : Network) (metrics : Metrics)
    (filter : Filter) (indexes : Text.Indexes) :
    Told (.start config rules network metrics filter indexes) where
  sound := Board.Sound.empty
  nodup := List.nodup_nil
  clusters := rfl
  record := ⟨[], .nil, rfl⟩
  visible := rfl

/-- Work on titles tells of nothing that lasts. -/
theorem quiet {course : Course} (h : course.Told) {resolver : Resolver}
    (hquiet : Desk.Quiet course.session.resolver.desk resolver.desk) (isServed : Bool) :
    Told { course with
      session := { course.session with resolver := resolver }, isServed := isServed } where
  sound := hquiet.board.sound h.sound
  nodup := h.nodup
  clusters := (Board.untitled_clusters hquiet.board.links course.session.found).trans h.clusters
  record := hquiet.record ▸ h.record
  visible := by
    have hkeys := hquiet.board.keeps.keys_visibleViews h.sound hquiet.board.visible
    show (groupsTold resolver.desk.outbox.record).map GroupView.key =
      resolver.desk.board.visibleViews.map GroupView.key
    rw [hquiet.record, hkeys]
    exact h.visible

theorem store {course : Course} (h : course.Told) (clusters : List Cluster) :
    Told { course with
      session := course.session.store clusters, scanned := clusters, isServed := false } := by
  have hretain := course.session.board.sameHidden_retain (clusters.map Cluster.url)
  have hsound := Board.sound_retain h.sound (clusters.map Cluster.url)
  refine ⟨Board.sound_addLinks hsound clusters, ?_, ?_, h.record, ?_⟩
  · exact List.nodup_range.map fun a b hab => Nat.add_left_cancel hab
  · exact congrArg (List.map Cluster.untitled) (Session.clusters_store course.session clusters)
  · have hadded := (Board.keeps_addLinks (course.session.board.retain
      (clusters.map Cluster.url)) clusters).keys_visibleViews hsound rfl
    have hretained := hretain.keeps.keys_visibleViews h.sound (Board.visible_retain ..)
    exact h.visible.trans (hadded.trans hretained).symm

/-- A review tells of itself. -/
theorem announced {course : Course} (h : course.Told) (now : Instant) :
    Told { course with
      session := { course.session with resolver := (course.session.announced now).2 }
      reviews := course.reviews ++ [course.session.selection now] } := by
  obtain ⟨hsound, hlinks⟩ := Session.sound_announced h.sound now
  have hrecord := course.session.record_announced now
  refine ⟨hsound, h.nodup, ?_, ?_, ?_⟩
  · -- Groups come and go in a review, but all clusters stay.
    have hclusters := Board.untitled_clusters (congrArg (List.map Cluster.untitled) hlinks)
      course.session.found
    exact hclusters.trans h.clusters
  · rw [hrecord]
    exact h.record.append (Session.announces_announced h.sound h.nodup now)
  · rw [hrecord, Session.groupsTold_announced]
    rfl

theorem step {course : Course} (h : course.Told) (action : Session.Action) :
    (course.step action).Told := by
  refine Course.step_induction h ?_ ?_ ?_ ?_
  · intro pipeline filter
    exact ⟨h.sound, h.nodup, h.clusters, h.record, h.visible⟩
  · intro action _
    exact h.quiet (course.session.resolver.quiet_act action) course.isServed
  · intro corpus now result _
    exact h.store result.clusters
  · intro course now h
    exact (h.announced now).quiet (Resolver.quiet_resolveAll ..) _

end Course.Told

/-- Whatever is done with a session, once nothing is on its way any more the
reader has been told of all its reviews in turn, and besides of updates only. The
groups told of since the list last began are those shown, and the clusters
reviewed are those of the last scan. -/
theorem Session.run_announces (config : Config) (rules : Rules) (network : Network)
    (metrics : Metrics) (filter : Filter) (indexes : Text.Indexes) (actions : List Session.Action) :
    let course := (Course.start config rules network metrics filter indexes).run actions
    AnnouncesAll course.reviews (lasting course.session.told) ∧
    (groupsTold course.session.told).map GroupView.key =
      course.session.visible.map GroupView.key ∧
    course.session.clusters.map Cluster.untitled = course.scanned.map Cluster.untitled := by
  intro course
  have htold : course.Told := Course.run_induction (fun _ action h => h.step action) actions _
    (.start config rules network metrics filter indexes)
  have hrecord : lasting course.session.told = course.session.resolver.desk.outbox.record :=
    Outbox.lasting_delivered_deliver _
  refine ⟨hrecord ▸ htold.record, ?_, htold.clusters⟩
  rw [← groupsTold_lasting, hrecord]
  exact htold.visible

end LinkDigest
