import LinkDigest.Proofs.Board.Views
import LinkDigest.Proofs.Session.Run
import Mathlib.Data.List.Forall2
import Mathlib.Data.List.Induction

/-!
# What a review puts up

A review takes a group for each cluster that is to be shown, one after the other.
In the end every one of them has its own group with its own articles, since no
two of them have the same place.
-/

namespace LinkDigest.Session

/-! ## What there is to show -/

/-- A scan leaves just the clusters it found. -/
@[simp] theorem clusters_store (session : Session) (clusters : List Cluster) :
    (session.store clusters).clusters = clusters := by
  have hrange : (List.range clusters.length).filterMap (fun i => clusters[i]?) = clusters := by
    induction clusters with
    | nil => rfl
    | cons cluster rest ih =>
      rw [List.length_cons, List.range_succ_eq_map, List.filterMap_cons, List.filterMap_map]
      exact congrArg _ ih
  have hplace : ∀ (links : List Cluster) (i : Nat),
      (links ++ clusters)[links.length + i]? = clusters[i]? := by
    intro links i
    rw [List.getElem?_append_right (Nat.le_add_right ..), Nat.add_sub_cancel_left]
  unfold Session.clusters Board.clusters Session.store
  simp only [List.filterMap_map]
  exact (List.filterMap_congr fun i _ => hplace _ i).trans hrange

theorem sound_store {session : Session} (h : session.board.Sound) (clusters : List Cluster) :
    (session.store clusters).board.Sound :=
  Board.sound_addLinks (Board.sound_retain h (clusters.map Cluster.url)) clusters

theorem links_entries (session : Session) (now : Instant) :
    ((session.entries now).map Entry.link).Sublist session.found := by
  unfold entries
  induction session.found with
  | nil => exact .slnil
  | cons link rest ih =>
    cases hlink : session.board.links[link]? with
    | none => simpa [hlink] using ih.cons link
    | some cluster =>
      cases hshown : session.pipeline.evaluate session.filter now cluster with
      | none => simpa [hlink, hshown] using ih.cons link
      | some shown => simpa [hlink, hshown] using ih.cons_cons link

/-- The entries are the clusters that pass, in their order. -/
theorem entries_selection (session : Session) (now : Instant) :
    List.Forall₂ (fun (entry : Entry) (shown : VisibleCluster) =>
      session.board.links[entry.link]? = some shown.cluster ∧ entry.articles = shown.articles)
      ((session.entries now).take session.config.maxDisplayed) (session.selection now) := by
  refine List.forall₂_take _ ?_
  unfold entries clusters Board.clusters Pipeline.apply
  induction session.found with
  | nil => exact .nil
  | cons link rest ih =>
    cases hlink : session.board.links[link]? with
    | none => simpa [hlink] using ih
    | some cluster =>
      cases hshown : session.pipeline.evaluate session.filter now cluster with
      | none => simpa [hlink, hshown] using ih
      | some shown =>
        have hcluster : shown.cluster = cluster := by
          unfold Pipeline.evaluate at hshown
          split at hshown
          · cases hshown
          · simp only at hshown
            repeat' split at hshown
            all_goals cases hshown
            rfl
        simpa [hlink, hshown, hcluster] using ih

/-! ## Groups for all of it -/

/-- The group of an entry is for its cluster and has its articles. -/
def Posted (board : Board) (entry : Entry) (id : GroupId) : Prop :=
  ∃ group, board.groups[id]? = some group ∧ group.link = entry.link ∧ group.items = entry.articles

theorem post_eq {board : Board} (h : board.Sound) {entry : Entry}
    (hlink : entry.link < board.links.length) :
    ∃ id next, post board entry = (some id, next.setItems id entry.articles) ∧
      board.Given entry.link id next := by
  obtain ⟨id, next, hnext, hgroup⟩ := h.groupFor? (List.getElem?_eq_getElem hlink)
  refine ⟨id, next, ?_, hgroup⟩
  unfold post
  rw [hnext]

theorem postAll_append (board : Board) (entries : List Entry) (entry : Entry) :
    postAll board (entries ++ [entry]) =
      ((postAll board entries).1 ++ (post (postAll board entries).2 entry).1.toList,
        (post (postAll board entries).2 entry).2) := by
  unfold postAll
  rw [List.foldl_append]
  rfl

/-- What taking a group and giving it its articles keeps holds when all entries
have their groups. -/
theorem postAll_induction {board : Board} {P : List Entry → List GroupId → Board → Prop}
    (hnil : P [] [] board)
    (hstep : ∀ entries ids before entry id next, P entries ids before →
      before.Given entry.link id next →
      P (entries ++ [entry]) (ids ++ [id]) (next.setItems id entry.articles))
    (hsound : board.Sound) (entries : List Entry)
    (hlinks : ∀ entry ∈ entries, entry.link < board.links.length) :
    P entries (postAll board entries).1 (postAll board entries).2 ∧
      (postAll board entries).2.Sound ∧ (postAll board entries).2.links = board.links := by
  induction entries using List.reverseRecOn with
  | nil => exact ⟨hnil, hsound, rfl⟩
  | append_singleton entries entry ih =>
    obtain ⟨hentries, hbefore, hsame⟩ :=
      ih fun other hother => hlinks other (List.mem_append_left _ hother)
    have hlink : entry.link < (postAll board entries).2.links.length := by
      rw [hsame]
      exact hlinks entry (by simp)
    obtain ⟨id, next, hpost, hgroup⟩ := post_eq hbefore hlink
    rw [postAll_append, hpost]
    exact ⟨hstep _ _ _ _ _ _ hentries hgroup, Board.sound_setItems (hgroup.sound hbefore hlink) ..,
      hgroup.links.trans hsame⟩

theorem lt_of_mem_postAll {board : Board} (hsound : board.Sound) {entries : List Entry}
    (hlinks : ∀ entry ∈ entries, entry.link < board.links.length) :
    ∀ id ∈ (postAll board entries).1, id < (postAll board entries).2.groups.length := by
  refine (postAll_induction (P := fun _ ids board => ∀ id ∈ ids, id < board.groups.length)
    (by simp) ?_ hsound entries hlinks).1
  intro entries ids before entry id next hids hgroup other hother
  have hlength : (next.setItems id entry.articles).groups.length = next.groups.length :=
    List.length_modify ..
  rw [hlength]
  rcases List.mem_append.mp hother with hold | hnew
  · exact Nat.lt_of_lt_of_le (hids other hold) hgroup.keeps.length_le
  · obtain ⟨group, hplace, -⟩ := hgroup.group
    rw [List.mem_singleton.mp hnew]
    exact (List.getElem?_eq_some_iff.mp hplace).1

/-- A group after all entries have theirs is one of these, or it is as before but for
being hidden. -/
theorem of_groups_postAll {board : Board} (hsound : board.Sound) {entries : List Entry}
    (hlinks : ∀ entry ∈ entries, entry.link < board.links.length) {place : GroupId} {group : Group}
    (hgroup : (postAll board entries).2.groups[place]? = some group) :
    place ∈ (postAll board entries).1 ∨
      ∃ old, board.groups[place]? = some old ∧ (group = old ∨ group = old.hidden) := by
  refine (postAll_induction (P := fun _ ids next => ∀ place group,
    next.groups[place]? = some group → place ∈ ids ∨
      ∃ old, board.groups[place]? = some old ∧ (group = old ∨ group = old.hidden))
    (fun _ group hplace => .inr ⟨group, hplace, .inl rfl⟩) ?_ hsound entries hlinks).1 place group
      hgroup
  intro entries ids before entry id next hbefore hgiven place group hplace
  rw [List.mem_append, List.mem_singleton]
  by_cases hid : id = place
  · exact .inl (.inr hid.symm)
  · simp only [Board.groups_setItems, if_neg hid] at hplace
    obtain ⟨cluster, -, hgives⟩ := hgiven.gives
    rcases hgives.of_groups hplace with heq | ⟨mid, hmid, hsame⟩
    · exact absurd heq.symm hid
    · refine (hbefore place mid hmid).imp .inl fun ⟨old, hold, hmidSame⟩ => ⟨old, hold, ?_⟩
      rcases hsame with rfl | rfl
      · exact hmidSame
      · exact .inr (by rcases hmidSame with rfl | rfl <;> rfl)

theorem posted_setItems {before next : Board} {entry : Entry} {id : GroupId}
    (h : before.GroupFor entry.link id next) :
    Posted (next.setItems id entry.articles) entry id := by
  obtain ⟨group, hgroup, hlink⟩ := h.group
  refine ⟨{ group with items := entry.articles }, ?_, hlink, rfl⟩
  simp [hgroup]

/-- A group for another cluster takes nothing from those before. -/
theorem Posted.setItems {before next : Board} {entry other : Entry} {id place : GroupId}
    (hposted : Posted before other place) (h : before.GroupFor entry.link id next)
    (hne : other.link ≠ entry.link) : Posted (next.setItems id entry.articles) other place := by
  obtain ⟨group, hgroup, hlink, hitems⟩ := hposted
  obtain ⟨kept, hkept, -, hkeptLink⟩ := h.keeps.group place group hgroup
  have hkeptItems := h.keeps.items place group kept hgroup hkept
  -- One group cannot be for two clusters.
  have hplace : id ≠ place := by
    rintro rfl
    obtain ⟨found, hfound, hfoundLink⟩ := h.group
    rw [hkept, Option.some.injEq] at hfound
    exact hne (by rw [← hlink, ← hkeptLink, hfound, hfoundLink])
  refine ⟨kept, ?_, hkeptLink.trans hlink, hkeptItems.trans hitems⟩
  simp [hplace, hkept]

theorem posted_postAll {board : Board} (hsound : board.Sound) {entries : List Entry}
    (hlinks : ∀ entry ∈ entries, entry.link < board.links.length)
    (hnodup : (entries.map Entry.link).Nodup) :
    List.Forall₂ (Posted (postAll board entries).2) entries (postAll board entries).1 := by
  -- That the places differ goes into the induction: the last entry differs from all before.
  refine (postAll_induction (P := fun entries ids board => (entries.map Entry.link).Nodup →
    List.Forall₂ (Posted board) entries ids) (fun _ => .nil) ?_ hsound entries hlinks).1 hnodup
  intro entries ids before entry id next hentries hgroup hnodup
  rw [List.map_append, List.map_singleton, List.nodup_append] at hnodup
  obtain ⟨hnodup, -, hnew⟩ := hnodup
  refine List.rel_append ?_ (.cons (posted_setItems hgroup.toGroupFor) .nil)
  have hmem : List.Forall₂ (fun other place => other ∈ entries ∧ Posted before other place)
      entries ids := (List.forall₂_and_left entries ids).mpr
      ⟨fun _ hmem => hmem, hentries hnodup⟩
  refine hmem.imp fun other place hother => ?_
  have hne : other.link ≠ entry.link :=
    hnew other.link (List.mem_map_of_mem hother.1) entry.link List.mem_cons_self
  exact hother.2.setItems hgroup.toGroupFor hne

theorem posted_of_sameHidden {before after : Board} (h : Board.SameHidden before after)
    {entry : Entry} {id : GroupId} (hposted : Posted before entry id) : Posted after entry id := by
  obtain ⟨group, hgroup, hlink, hitems⟩ := hposted
  obtain ⟨next, hnext, -, hnextLink⟩ := h.keeps.group id group hgroup
  have hnextItems := h.keeps.items id group next hgroup hnext
  exact ⟨next, hnext, hnextLink.trans hlink, hnextItems.trans hitems⟩

/-! ## The board of a review -/

theorem lt_of_mem_entries {session : Session} {now : Instant} {entry : Entry}
    (h : entry ∈ (session.entries now).take session.config.maxDisplayed) :
    entry.link < session.board.links.length := by
  unfold entries at h
  obtain ⟨link, -, hentry⟩ := List.mem_filterMap.mp (List.mem_of_mem_take h)
  cases hlink : session.board.links[link]? with
  | none => simp [hlink] at hentry
  | some cluster =>
    cases hshown : session.pipeline.evaluate session.filter now cluster with
    | none => simp [hlink, hshown] at hentry
    | some shown =>
      have heq : ⟨link, shown.articles⟩ = entry := by simpa [hlink, hshown] using hentry
      rw [← heq]
      exact (List.getElem?_eq_some_iff.mp hlink).1

/-- The groups of a review and the board with exactly these shown. -/
theorem announced_board (session : Session) (now : Instant) :
    (session.announced now).2.desk.board =
      (postAll session.board
        ((session.entries now).take session.config.maxDisplayed)).2.replaceVisible
          (session.announced now).1 := rfl

theorem visible_announced (session : Session) (now : Instant) :
    (session.announced now).2.desk.board.visible = (session.announced now).1 := rfl

/-- A group after a review is one of its groups and in sight, or it is as before but
for being hidden, and then it is hidden if it was shown. -/
theorem of_groups_announced {session : Session} (hsound : session.board.Sound) (now : Instant)
    {place : GroupId} {group : Group}
    (hgroup : (session.announced now).2.desk.board.groups[place]? = some group) :
    place ∈ (session.announced now).1 ∨
      ∃ old, session.board.groups[place]? = some old ∧
        (group = old ∧ place ∉ session.board.visible ∨ group = old.hidden) := by
  have hlinks : ∀ entry ∈ (session.entries now).take session.config.maxDisplayed,
      entry.link < session.board.links.length := fun _ hentry => lt_of_mem_entries hentry
  have hvisible := (postAll_induction (P := fun _ _ next => next.visible = session.board.visible)
    rfl (fun _ _ _ _ _ _ hbefore hgiven => hgiven.visible.trans hbefore) hsound _ hlinks).1
  by_cases hplace : place ∈ (session.announced now).1
  · exact .inl hplace
  · right
    rw [announced_board, Board.groups_replaceVisible, if_neg hplace, hvisible] at hgroup
    split at hgroup
    · obtain ⟨posted, hposted, rfl⟩ := Option.map_eq_some_iff.mp hgroup
      obtain ⟨old, hold, hsame⟩ := (of_groups_postAll hsound hlinks hposted).resolve_left hplace
      exact ⟨old, hold, .inr (by rcases hsame with rfl | rfl <;> rfl)⟩
    · rename_i hunlisted
      obtain ⟨old, hold, hsame⟩ := (of_groups_postAll hsound hlinks hgroup).resolve_left hplace
      exact ⟨old, hold, hsame.imp_left fun heq => ⟨heq, hunlisted⟩⟩

/-- All entries have their groups when they are announced. -/
theorem posted_announced {session : Session} (hsound : session.board.Sound)
    (hnodup : session.found.Nodup) (now : Instant) :
    List.Forall₂ (Posted (session.announced now).2.desk.board)
      ((session.entries now).take session.config.maxDisplayed) (session.announced now).1 := by
  have hdistinct : (((session.entries now).take session.config.maxDisplayed).map
      Entry.link).Nodup :=
    (((List.take_sublist ..).map Entry.link).trans (session.links_entries now)).nodup hnodup
  have hposted := posted_postAll hsound (fun _ hentry => lt_of_mem_entries hentry) hdistinct
  rw [announced_board]
  exact hposted.imp fun _ _ => posted_of_sameHidden (Board.sameHidden_replaceVisible ..)

theorem sound_announced {session : Session} (hsound : session.board.Sound) (now : Instant) :
    (session.announced now).2.desk.board.Sound ∧
      (session.announced now).2.desk.board.links = session.board.links := by
  have hlinks : ∀ entry ∈ (session.entries now).take session.config.maxDisplayed,
      entry.link < session.board.links.length := fun _ hentry => lt_of_mem_entries hentry
  have hposts := (postAll_induction (P := fun _ _ _ => True) trivial
    (fun _ _ _ _ _ _ _ _ => trivial) hsound _ hlinks).2
  rw [announced_board]
  constructor
  · exact Board.sound_replaceVisible hposts.1 (lt_of_mem_postAll hsound hlinks)
  · rw [(Board.sameHidden_replaceVisible ..).links]
    exact hposts.2

end LinkDigest.Session
