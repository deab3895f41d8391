import LinkDigest.Proofs.Board.Groups
import Mathlib.Data.List.Nodup

/-!
# The numbers of groups

Groups of one number are groups of one link, and no cluster has two groups. For this
the clusters of the last scan must be of different links, and a group of theirs must
be the one known for its link: then a number is taken over only within a link, and a
new one has not been given out before.
-/

namespace LinkDigest.Board

/-- The number of each group and the place of its cluster. -/
def seats (board : Board) : List (Nat × LinkId) :=
  board.groups.map fun group => (group.seq, group.link)

/-- The links of the clusters. -/
def urls (board : Board) : List String := board.links.map Cluster.url

theorem seats_eq {board : Board} {id : GroupId} {group : Group}
    (h : board.groups[id]? = some group) : board.seats[id]? = some (group.seq, group.link) := by
  simp [seats, h]

theorem exists_of_seats {board : Board} {id : GroupId} {seat : Nat × LinkId}
    (h : board.seats[id]? = some seat) :
    ∃ group, board.groups[id]? = some group ∧ (group.seq, group.link) = seat := by
  unfold seats at h
  rw [List.getElem?_map] at h
  exact Option.map_eq_some_iff.mp h

theorem urls_eq {board : Board} {link : LinkId} {cluster : Cluster}
    (h : board.links[link]? = some cluster) : board.urls[link]? = some cluster.url := by
  simp [urls, h]

/-- What is true of numbers, given the clusters of the last scan. -/
structure Numbered (found : List LinkId) (board : Board) : Prop where
  /-- A number that has not been given out is no group's. -/
  seq_le : ∀ seat ∈ board.seats, seat.1 ≤ board.issued
  /-- Groups of one number are of one link. -/
  url_eq : ∀ a ∈ board.seats, ∀ b ∈ board.seats, a.1 = b.1 → board.urls[a.2]? = board.urls[b.2]?
  /-- No cluster has two groups. -/
  nodup : (board.seats.map Prod.snd).Nodup
  /-- A group of a cluster of the last scan is known for its link. -/
  known : ∀ id seat, board.seats[id]? = some seat → seat.2 ∈ found →
    ∀ url, board.urls[seat.2]? = some url → board.find? url = some id
  /-- The last scan found no link twice. -/
  distinct : ∀ a ∈ found, ∀ b ∈ found, board.urls[a]? = board.urls[b]? → a = b

namespace Numbered

variable {found : List LinkId} {board after : Board}

theorem eq_of_link (h : board.Numbered found) {a b : GroupId} {first second : Group}
    (hfirst : board.groups[a]? = some first) (hsecond : board.groups[b]? = some second)
    (hlink : first.link = second.link) : a = b := by
  have hplaces : ∀ {id : GroupId} {group : Group}, board.groups[id]? = some group →
      (board.seats.map Prod.snd)[id]? = some group.link := fun hgroup => by
    rw [List.getElem?_map, seats_eq hgroup]
    rfl
  have hlt := (List.getElem?_eq_some_iff.mp (hplaces hfirst)).1
  refine (List.getElem?_inj hlt h.nodup).mp ?_
  rw [hplaces hfirst, hplaces hsecond, hlink]

/-- Of the clusters of the last scan, no two have groups of one number. -/
theorem eq_of_seq (h : board.Numbered found) {a b : GroupId} {first second : Group}
    (hfirst : board.groups[a]? = some first) (hsecond : board.groups[b]? = some second)
    (hseq : first.seq = second.seq) (hfound : first.link ∈ found)
    (hother : second.link ∈ found) : a = b := by
  refine h.eq_of_link hfirst hsecond (h.distinct _ hfound _ hother ?_)
  exact h.url_eq _ (List.mem_of_getElem? (seats_eq hfirst)) _
    (List.mem_of_getElem? (seats_eq hsecond)) hseq

theorem empty : Board.empty.Numbered [] where
  seq_le _ h := absurd h List.not_mem_nil
  url_eq _ h := absurd h List.not_mem_nil
  nodup := List.nodup_nil
  known _ _ _ h := absurd h List.not_mem_nil
  distinct _ h := absurd h List.not_mem_nil

theorem of_eq (h : board.Numbered found) (hseats : after.seats = board.seats)
    (hurls : after.urls = board.urls) (hissued : after.issued = board.issued)
    (hknown : after.known = board.known) : after.Numbered found where
  seq_le := by
    rw [hseats, hissued]
    exact h.seq_le
  url_eq := by
    rw [hseats, hurls]
    exact h.url_eq
  nodup := hseats ▸ h.nodup
  known := by
    rw [hseats, hurls]
    unfold find?
    rw [hknown]
    exact h.known
  distinct := by
    rw [hurls]
    exact h.distinct

end Numbered

/-! ## What keeps the numbers -/

theorem seats_of_map {before after : Board} (change : Group → Group)
    (hchange : ∀ group, (change group).seq = group.seq ∧ (change group).link = group.link)
    (h : after.groups.map change = before.groups.map change) : after.seats = before.seats := by
  have hseats : ∀ groups : List Group,
      (groups.map change).map (fun group => (group.seq, group.link)) =
        groups.map fun group => (group.seq, group.link) := by
    intro groups
    rw [List.map_map]
    exact List.map_congr_left fun group _ => Prod.ext (hchange group).1 (hchange group).2
  unfold seats
  rw [← hseats, h, hseats]

theorem SameOutline.seats {before after : Board} (h : SameOutline before after) :
    after.seats = before.seats := seats_of_map Group.unsearched (fun _ => ⟨rfl, rfl⟩) h.groups

theorem SameHidden.seats {before after : Board} (h : SameHidden before after) :
    after.seats = before.seats := seats_of_map Group.hidden (fun _ => ⟨rfl, rfl⟩) h.groups

theorem SameHidden.urls {before after : Board} (h : SameHidden before after) :
    after.urls = before.urls := by
  unfold Board.urls
  rw [h.links]

theorem SameOutline.urls {before after : Board} (h : SameOutline before after) :
    after.urls = before.urls := by
  have hurls : ∀ links : List Cluster,
      (links.map Cluster.untitled).map Cluster.url = links.map Cluster.url := by
    intro links
    rw [List.map_map]
    rfl
  unfold Board.urls
  rw [← hurls, h.links, hurls]

@[simp] theorem seats_setItems (board : Board) (id : GroupId) (items : List Article) :
    (board.setItems id items).seats = board.seats :=
  map_modify_of_eq (fun group : Group => (group.seq, group.link))
    (fun group => { group with items := items }) (fun _ => rfl) ..

@[simp] theorem seats_setVisible (board : Board) (id : GroupId) (isVisible : Bool) :
    (board.setVisible id isVisible).seats = board.seats :=
  (board.sameHidden_setVisible id isVisible).seats

@[simp] theorem seats_newGroup (board : Board) (seq : Nat) (link : LinkId) (url : String) :
    (board.newGroup seq link url).2.seats = board.seats ++ [(seq, link)] := List.map_append

/-- When only the groups of some links are left, those are found as before. -/
theorem lookup_filter (known : List (String × GroupId)) (keep : String → Bool) (url : String) :
    (known.filter fun entry => keep entry.1).lookup url =
      if keep url then known.lookup url else none := by
  induction known with
  | nil => simp
  | cons entry rest ih =>
    obtain ⟨name, id⟩ := entry
    by_cases hname : url = name
    · subst hname
      cases hkeep : keep url <;> simp [hkeep, ih]
    · have hother : (url == name) = false := by simpa using hname
      cases hkeep : keep name <;> simp [List.lookup_cons, hkeep, hother, ih]

/-- The links that are not among these are forgotten. -/
theorem find?_retain (board : Board) (urls : List String) (url : String) :
    (board.retain urls).find? url = if url ∈ urls then board.find? url else none := by
  simp only [find?, known_retain, lookup_filter, List.contains_iff_mem]

theorem find?_newGroup (board : Board) (seq : Nat) (link : LinkId) (url other : String) :
    (board.newGroup seq link url).2.find? other =
      if other = url then some board.nextGroup else board.find? other := by
  unfold newGroup know find?
  by_cases hurl : other = url
  · subst hurl
    simp
  · have hne : (other == url) = false := by simp [hurl]
    have hkept := lookup_filter board.known (fun name => decide (name ≠ url)) other
    rw [if_pos (by simp [hurl])] at hkept
    simp only [List.lookup_cons, hne, hurl, if_false]
    exact hkept

@[simp] theorem urls_addLinks (board : Board) (clusters : List Cluster) (i : Nat) :
    (board.addLinks clusters).urls[board.nextLink + i]? = (clusters.map Cluster.url)[i]? := by
  have hlength : (board.links.map Cluster.url).length = board.nextLink := List.length_map ..
  unfold urls addLinks
  rw [List.map_append, List.getElem?_append_right (by omega)]
  congr 1
  omega

namespace Numbered

variable {found : List LinkId} {board next : Board}

/-- A group for a cluster that has none may have any number that has been given out, if
all groups of that number are of the same link. -/
theorem newGroup (h : board.Numbered found) {seq : Nat} {link : LinkId} {url : String}
    (hlink : link ∈ found) (hurl : board.urls[link]? = some url)
    (hnew : link ∉ board.seats.map Prod.snd) (hseq : seq ≤ board.issued)
    (hsame : ∀ seat ∈ board.seats, seat.1 = seq → board.urls[seat.2]? = some url) :
    (board.newGroup seq link url).2.Numbered found := by
  have hseats := board.seats_newGroup seq link url
  refine ⟨?_, ?_, ?_, ?_, h.distinct⟩
  · rw [hseats]
    intro seat hseat
    rcases List.mem_append.mp hseat with hold | hlast
    · exact h.seq_le seat hold
    · rw [List.mem_singleton.mp hlast]
      exact hseq
  · rw [hseats]
    intro a ha b hb hab
    show board.urls[a.2]? = board.urls[b.2]?
    rcases List.mem_append.mp ha with hold | hlast
    · rcases List.mem_append.mp hb with hother | hlast
      · exact h.url_eq a hold b hother hab
      · rw [List.mem_singleton.mp hlast] at hab ⊢
        exact (hsame a hold hab).trans hurl.symm
    · rw [List.mem_singleton.mp hlast] at hab ⊢
      rcases List.mem_append.mp hb with hother | hlast
      · exact hurl.trans (hsame b hother hab.symm).symm
      · rw [List.mem_singleton.mp hlast]
  · rw [hseats, List.map_append]
    exact List.nodup_append.mpr ⟨h.nodup, List.nodup_singleton _, by
      rintro place hplace _ hlast rfl
      have heq : place = link := List.mem_singleton.mp hlast
      exact hnew (heq ▸ hplace)⟩
  · rw [hseats]
    intro id seat hseat hfound other hother
    rw [find?_newGroup]
    have hplace : board.urls[seat.2]? = some other := hother
    rcases Nat.lt_or_ge id board.seats.length with hlt | hge
    · rw [List.getElem?_append_left hlt] at hseat
      -- An old group of this link would be of this cluster, which has none.
      have hne : other ≠ url := by
        rintro rfl
        have heq := h.distinct seat.2 hfound link hlink (hplace.trans hurl.symm)
        exact hnew (heq ▸ List.mem_map_of_mem (List.mem_of_getElem? hseat))
      rw [if_neg hne]
      exact h.known id seat hseat hfound other hplace
    · rw [List.getElem?_append_right hge] at hseat
      have hid : board.seats.length = id := by
        have hlt := (List.getElem?_eq_some_iff.mp hseat).1
        simp only [List.length_singleton] at hlt
        omega
      subst hid
      rw [Nat.sub_self] at hseat
      cases hseat
      rw [hurl, Option.some.injEq] at hplace
      rw [if_pos hplace.symm]
      exact congrArg some (List.length_map ..).symm

theorem given (h : board.Numbered found) {link : LinkId} {id : GroupId}
    (hlink : link ∈ found) (hgiven : Given board link id next) : next.Numbered found := by
  obtain ⟨cluster, hcluster, hgives⟩ := hgiven.gives
  have hurl := urls_eq hcluster
  -- A group of the cluster would be the one known for its link.
  have hnone : ∀ {known : Option GroupId}, board.find? cluster.url = known →
      (∀ id, known = some id → ∀ seat, board.seats[id]? = some seat → seat.2 ≠ link) →
      link ∉ board.seats.map Prod.snd := by
    intro known hfind hother hmem
    obtain ⟨seat, hseat, rfl⟩ := List.mem_map.mp hmem
    obtain ⟨place, hplace⟩ := List.mem_iff_getElem?.mp hseat
    have hknown := h.known place seat hplace hlink cluster.url hurl
    exact hother place (hfind ▸ hknown) seat hplace rfl
  cases hgives with
  | known => exact h
  | fresh hfind =>
    have hissued : ({ board with issued := board.issued + 1 } : Board).Numbered found :=
      ⟨fun seat hseat => Nat.le_succ_of_le (h.seq_le seat hseat), h.url_eq, h.nodup, h.known,
        h.distinct⟩
    refine hissued.newGroup hlink hurl (hnone hfind (fun _ hid => nomatch hid)) (Nat.le_refl _) ?_
    intro seat hseat hseq
    have hle := h.seq_le seat hseat
    omega
  | renewed known group hfind hgroup hne =>
    have hseats := board.seats_setVisible known false
    have hhidden : (board.setVisible known false).Numbered found := h.of_eq hseats rfl rfl rfl
    have hseat := seats_eq hgroup
    have hmem := List.mem_of_getElem? hseat
    obtain ⟨owner, known', howner, hlinkOwner, hownerUrl⟩ :=
      hgiven.isSound.knows (cluster.url, known) (mem_of_lookup hfind)
    rw [hgroup, Option.some.injEq] at howner
    subst howner
    refine hhidden.newGroup hlink hurl ?_ (h.seq_le _ hmem) ?_
    · rw [hseats]
      refine hnone hfind ?_
      rintro _ ⟨⟩ seat hplace
      rw [hseat, Option.some.injEq] at hplace
      exact hplace ▸ hne
    · rw [hseats]
      intro seat hother hseq
      have heq := h.url_eq seat hother _ hmem hseq
      exact heq.trans ((urls_eq hlinkOwner).trans (congrArg some hownerUrl))

/-- Showing, hiding and forgetting groups changes no number. -/
theorem forget {after : Board} (h : board.Numbered found) (hsame : SameHidden board after) :
    after.Numbered [] where
  seq_le := by
    rw [hsame.seats, hsame.issued]
    exact h.seq_le
  url_eq := by
    rw [hsame.seats, hsame.urls]
    exact h.url_eq
  nodup := hsame.seats ▸ h.nodup
  known _ _ _ hmem := absurd hmem List.not_mem_nil
  distinct _ hmem := absurd hmem List.not_mem_nil

/-- A scan puts clusters of different links in new places, where no group's is. -/
theorem addLinks (h : board.Numbered found) (hsound : board.Sound) {clusters : List Cluster}
    (hnodup : (clusters.map Cluster.url).Nodup) :
    (board.addLinks clusters).Numbered
      ((List.range clusters.length).map (board.nextLink + ·)) := by
  have hurls : (board.addLinks clusters).urls = board.urls ++ clusters.map Cluster.url :=
    List.map_append
  have hlength : board.urls.length = board.nextLink := List.length_map ..
  have hlt : ∀ seat ∈ board.seats, seat.2 < board.urls.length := by
    intro seat hseat
    obtain ⟨group, hgroup, rfl⟩ := List.mem_map.mp hseat
    rw [hlength]
    exact hsound.link_lt _ (List.mem_map_of_mem hgroup)
  refine ⟨h.seq_le, ?_, h.nodup, ?_, ?_⟩
  · intro a ha b hb hab
    rw [hurls, List.getElem?_append_left (hlt a ha), List.getElem?_append_left (hlt b hb)]
    exact h.url_eq a ha b hb hab
  · intro id seat hseat hfound
    obtain ⟨i, -, hplace⟩ := List.mem_map.mp hfound
    have hold := hlt seat (List.mem_of_getElem? hseat)
    have hge : board.nextLink ≤ seat.2 := hplace ▸ Nat.le_add_right ..
    rw [hlength] at hold
    exact absurd hold (Nat.not_lt.mpr hge)
  · intro a ha b hb hab
    obtain ⟨i, hi, rfl⟩ := List.mem_map.mp ha
    obtain ⟨j, hj, rfl⟩ := List.mem_map.mp hb
    simp only [urls_addLinks] at hab
    have hi' : i < (clusters.map Cluster.url).length := by simpa using hi
    rw [(List.getElem?_inj hi' hnodup).mp hab]

end Numbered

end LinkDigest.Board
