import LinkDigest.Title.Cache
import Mathlib.Data.Finset.Dedup
import Mathlib.Data.Set.Card

/-!
# What the cache keeps

Whatever is done with a cache, a link is in it as long as fewer other links than there is room
for have been used since it was used itself, and then with the title that was last stored for
it. The links are in the cache in the order of their last uses, which an order without a
bound has from the history alone; the cache is the front of it.
-/

namespace LinkDigest.TitleCache

/-! ## Runs -/

/-- What can be done with a cache. -/
inductive Action where
  | get (url : String)
  | put (url title : String)
  | contains (url : String)
  | clear
deriving DecidableEq, Repr

/-- What was done with a cache, and what it answered. -/
inductive Note where
  | got (url : String) (title : Option String)
  | stored (url title : String)
  | asked (url : String) (found : Bool)
  | cleared
deriving DecidableEq, Repr

/-- A cache with what was done with it, the last first. -/
structure Log where
  cache : TitleCache
  past : List Note

def Log.act (log : Log) : Action → Log
  | .get url => ⟨log.cache.use url, .got url (log.cache.find? url) :: log.past⟩
  | .put url title => ⟨log.cache.put url title, .stored url title :: log.past⟩
  | .contains url => ⟨log.cache, .asked url (log.cache.contains url) :: log.past⟩
  | .clear => ⟨log.cache.clear, .cleared :: log.past⟩

/-- A new cache after some actions. -/
def run (capacity : Nat) (actions : List Action) : Log :=
  actions.foldl Log.act ⟨.new capacity, []⟩

/-! ## The reference -/

namespace Note

/-- The link that was used. A look that finds nothing uses none. -/
def used? : Note → Option String
  | got url (some _) | stored url _ => some url
  | got _ none | asked .. | cleared => none

/-- The title that was stored for a link. -/
def titleFor? (url : String) : Note → Option String
  | stored other title => if other = url then some title else none
  | got .. | asked .. | cleared => none

end Note

/-- The title last stored for a link. -/
def lastTitle? (past : List Note) (url : String) : Option String :=
  past.findSome? (Note.titleFor? url)

/-- What was done since everything was cleared. -/
def sinceCleared (past : List Note) : List Note := past.takeWhile (· ≠ .cleared)

/-- What was done since a link was used. -/
def sinceUsed (past : List Note) (url : String) : List Note :=
  past.takeWhile fun note => note.used? ≠ some url

/-- The other links used since a link was used. -/
def usedSince (past : List Note) (url : String) : Finset String :=
  ((sinceUsed past url).filterMap Note.used?).toFinset

/-- Whether a link has to be in a cache: a title was stored for it since all was cleared, and
since it was used there is still room for the others. -/
def IsKept (capacity : Nat) (past : List Note) (url : String) : Prop :=
  (∃ title, .stored url title ∈ sinceCleared past) ∧ (usedSince past url).card < capacity

/-- Whether an answer is right after what was done before. -/
def Note.IsRight (capacity : Nat) (past : List Note) : Note → Prop
  | got url title => ∀ known, title = some known ↔
      IsKept capacity past url ∧ lastTitle? past url = some known
  | asked url found => found ↔ IsKept capacity past url
  | stored .. | cleared => True

/-! ## The order of uses -/

/-- The links used since everything was cleared, the last one first. -/
def recents : List Note → List String
  | [] => []
  | .cleared :: _ => []
  | note :: past =>
    match note.used? with
    | some url => url :: (recents past).filter (· ≠ url)
    | none => recents past

variable {past : List Note} {note : Note} {url title : String}

theorem recents_cons_of_used (h : note.used? = some url) :
    recents (note :: past) = url :: (recents past).filter (· ≠ url) := by
  cases note with
  | got other title => simp [recents, h]
  | stored other title => simp [recents, h]
  | asked other found => cases h
  | cleared => cases h

theorem recents_cons_of_idle (h : note.used? = none) (hcleared : note ≠ .cleared) :
    recents (note :: past) = recents past := by
  cases note with
  | got other title => simp [recents, h]
  | stored other title => cases h
  | asked other found => rfl
  | cleared => exact absurd rfl hcleared

theorem nodup_recents (past : List Note) : (recents past).Nodup := by
  induction past with
  | nil => exact List.nodup_nil
  | cons note past ih =>
    by_cases hcleared : note = .cleared
    · rw [hcleared]
      exact List.nodup_nil
    · cases hused : note.used? with
      | none => rwa [recents_cons_of_idle hused hcleared]
      | some url =>
        rw [recents_cons_of_used hused, List.nodup_cons]
        exact ⟨by simp, ih.filter _⟩

/-- A link for which a title was stored is among those used. -/
theorem mem_recents_of_stored (h : .stored url title ∈ sinceCleared past) :
    url ∈ recents past := by
  induction past with
  | nil => cases h
  | cons note past ih =>
    by_cases hcleared : note = .cleared
    · simp [sinceCleared, hcleared] at h
    · have hmem : .stored url title = note ∨ .stored url title ∈ sinceCleared past := by
        simpa [sinceCleared, hcleared] using h
      cases hused : note.used? with
      | none =>
        rw [recents_cons_of_idle hused hcleared]
        refine ih (hmem.resolve_left ?_)
        rintro rfl
        cases hused
      | some other =>
        rw [recents_cons_of_used hused]
        by_cases hother : url = other
        · exact hother ▸ List.mem_cons_self
        · refine List.mem_cons_of_mem _ (List.mem_filter.mpr ⟨ih (hmem.resolve_left ?_), ?_⟩)
          · rintro rfl
            exact hother (Option.some.inj hused)
          · simpa using hother

/-- Before a link in the order come just the links used since it was used. -/
theorem exists_recents_eq (h : url ∈ recents past) : ∃ before after,
    recents past = before ++ url :: after ∧ before.toFinset = usedSince past url := by
  induction past with
  | nil => cases h
  | cons note past ih =>
    by_cases hcleared : note = .cleared
    · rw [hcleared] at h
      cases h
    · cases hused : note.used? with
      | none =>
        rw [recents_cons_of_idle hused hcleared] at h ⊢
        obtain ⟨before, after, heq, hset⟩ := ih h
        exact ⟨before, after, heq, by simp [hset, usedSince, sinceUsed, hused]⟩
      | some other =>
        rw [recents_cons_of_used hused] at h ⊢
        by_cases hother : other = url
        · exact ⟨[], _, by rw [hother]; rfl, by simp [usedSince, sinceUsed, hused, hother]⟩
        -- another link moves to the front, and the ones around `url` keep their order
        · have hmem : url ∈ recents past :=
            List.mem_of_mem_filter ((List.mem_cons.mp h).resolve_left (Ne.symm hother))
          obtain ⟨before, after, heq, hset⟩ := ih hmem
          refine ⟨other :: before.filter (· ≠ other), after.filter (· ≠ other), ?_, ?_⟩
          · simp [heq, Ne.symm hother]
          · have hsince : usedSince (note :: past) url = insert other (usedSince past url) := by
              simp [usedSince, sinceUsed, hused, hother]
            rw [hsince, ← hset]
            ext used
            by_cases hused : used = other <;> simp [hused]

/-- A link is in the front of the order while few others have been used since. -/
theorem mem_take_recents_iff {capacity : Nat} (h : url ∈ recents past) :
    url ∈ (recents past).take capacity ↔ (usedSince past url).card < capacity := by
  obtain ⟨before, after, heq, hset⟩ := exists_recents_eq h
  have hnodup := nodup_recents past
  rw [heq] at hnodup ⊢
  obtain ⟨hbefore, -, hdisjoint⟩ := List.nodup_append.mp hnodup
  rw [← hset, List.toFinset_card_of_nodup hbefore, List.take_append, List.mem_append]
  constructor
  · rintro (hfront | hback)
    · exact absurd rfl (hdisjoint url (List.mem_of_mem_take hfront) url List.mem_cons_self)
    · by_contra hfull
      rw [Nat.sub_eq_zero_of_le (Nat.le_of_not_lt hfull)] at hback
      cases hback
  · intro hroom
    obtain ⟨room, hroom⟩ : ∃ room, capacity - before.length = room + 1 :=
      ⟨capacity - before.length - 1, by omega⟩
    exact .inr (hroom ▸ List.mem_cons_self)

/-- It is the same whether the last links are dropped before one is put in front, or after. -/
theorem take_filter_take {links : List String} (hnodup : links.Nodup) (url : String)
    (room : Nat) : ((links.take (room + 1)).filter (· ≠ url)).take room =
      (links.filter (· ≠ url)).take room := by
  induction links generalizing room with
  | nil => rfl
  | cons link links ih =>
    obtain ⟨hnew, hnodup⟩ := List.nodup_cons.mp hnodup
    by_cases hlink : link = url
    -- where the link stands, nothing behind it is dropped for it
    · have hrest : ∀ other ∈ links, decide (other ≠ url) = true := by
        intro other hother
        exact decide_eq_true fun heq => hnew (hlink ▸ heq ▸ hother)
      rw [List.take_succ_cons, List.filter_cons_of_neg (by simpa using hlink),
        List.filter_cons_of_neg (by simpa using hlink), List.filter_eq_self.mpr hrest,
        List.filter_eq_self.mpr fun other hother => hrest other (List.mem_of_mem_take hother),
        List.take_take, Nat.min_self]
    · rw [List.take_succ_cons, List.filter_cons_of_pos (by simpa using hlink),
        List.filter_cons_of_pos (by simpa using hlink)]
      cases room with
      | zero => rfl
      | succ room => rw [List.take_succ_cons, List.take_succ_cons, ih hnodup]

/-! ## The cache is the front of the order -/

/-- The links of a cache, the last one used first. -/
def links (cache : TitleCache) : List String := cache.entries.map Prod.fst

theorem links_put (cache : TitleCache) (url title : String) : (cache.put url title).links =
    (url :: cache.links.filter (· ≠ url)).take cache.capacity := by
  unfold links put erase
  rw [List.filter_map, List.map_take]
  rfl

theorem contains_iff_mem_links {cache : TitleCache} : cache.contains url ↔ url ∈ cache.links := by
  unfold contains find? links
  rw [List.lookup_isSome_iff, List.mem_map]
  exact exists_congr fun entry => and_congr_right fun _ => beq_iff_eq.trans eq_comm

/-- To use a title that is there is to store it again. -/
theorem use_eq_put {cache : TitleCache} (hfind : cache.find? url = some title)
    (hsize : cache.size ≤ cache.capacity) : cache.use url = cache.put url title := by
  have hless : (cache.erase url).entries.length < cache.entries.length :=
    List.length_filter_lt_length_iff_exists.mpr ⟨(url, title), mem_of_find? hfind, by simp⟩
  have hroom : ((url, title) :: (cache.erase url).entries).length ≤ cache.capacity := by
    unfold size at hsize
    rw [List.length_cons]
    omega
  simp only [use, hfind, put, List.take_of_length_le hroom]

/-! ## What every action keeps -/

/-- What is so after any actions. -/
structure Log.Orderly (capacity : Nat) (log : Log) : Prop where
  capacity_eq : log.cache.capacity = capacity
  links_eq : log.cache.links = (recents log.past).take capacity
  /-- A link can be used only if a title was stored for it. -/
  stored : ∀ url ∈ recents log.past, ∃ title, .stored url title ∈ sinceCleared log.past
  titles : ∀ entry ∈ log.cache.entries, lastTitle? log.past entry.1 = some entry.2
  answers : ∀ note before, note :: before <:+ log.past → note.IsRight capacity before

namespace Log.Orderly

variable {capacity : Nat} {log : Log}

theorem size_le (h : log.Orderly capacity) : log.cache.size ≤ capacity := by
  have hlength : log.cache.size = log.cache.links.length := (List.length_map _).symm
  rw [hlength, h.links_eq, List.length_take]
  exact Nat.min_le_left ..

theorem contains_iff (h : log.Orderly capacity) (url : String) :
    log.cache.contains url ↔ IsKept capacity log.past url := by
  rw [contains_iff_mem_links, h.links_eq]
  constructor
  · intro hmem
    have hrecent := List.mem_of_mem_take hmem
    exact ⟨h.stored url hrecent, (mem_take_recents_iff hrecent).mp hmem⟩
  · rintro ⟨⟨title, hstored⟩, hroom⟩
    exact (mem_take_recents_iff (mem_recents_of_stored hstored)).mpr hroom

theorem find?_eq_some_iff (h : log.Orderly capacity) (url title : String) :
    log.cache.find? url = some title ↔
      IsKept capacity log.past url ∧ lastTitle? log.past url = some title := by
  rw [← h.contains_iff, contains]
  constructor
  · intro hfind
    exact ⟨by rw [hfind]; rfl, h.titles _ (mem_of_find? hfind)⟩
  · rintro ⟨hsome, hlast⟩
    obtain ⟨found, hfind⟩ := Option.isSome_iff_exists.mp hsome
    rw [hfind, ← h.titles _ (mem_of_find? hfind), hlast]

theorem answers_cons (h : log.Orderly capacity) (hright : note.IsRight capacity log.past) :
    ∀ next before, next :: before <:+ note :: log.past → next.IsRight capacity before := by
  intro next before hsuffix
  rcases List.suffix_cons_iff.mp hsuffix with heq | hsuffix
  · cases heq
    exact hright
  · exact h.answers next before hsuffix

/-- Where a link is used its title comes to the front. -/
theorem put (h : log.Orderly capacity) (hpos : 0 < capacity) (hused : note.used? = some url)
    (htitle : lastTitle? (note :: log.past) url = some title)
    (hothers : ∀ other ≠ url, lastTitle? (note :: log.past) other = lastTitle? log.past other)
    (hstored : ∃ title, .stored url title ∈ sinceCleared (note :: log.past))
    (hright : note.IsRight capacity log.past) :
    Log.Orderly capacity ⟨log.cache.put url title, note :: log.past⟩ := by
  have hkeeps : ∀ other ∈ sinceCleared log.past, other ∈ sinceCleared (note :: log.past) := by
    intro other hother
    have hcleared : note ≠ .cleared := by
      rintro rfl
      cases hused
    simpa [sinceCleared, hcleared] using Or.inr hother
  refine ⟨h.capacity_eq, ?_, ?_, ?_, h.answers_cons hright⟩
  · obtain ⟨room, rfl⟩ : ∃ room, capacity = room + 1 := ⟨capacity - 1, by omega⟩
    rw [links_put, h.links_eq, h.capacity_eq, recents_cons_of_used hused, List.take_succ_cons,
      List.take_succ_cons, take_filter_take (nodup_recents log.past)]
  · intro other hother
    rw [recents_cons_of_used hused] at hother
    rcases List.mem_cons.mp hother with rfl | hother
    · exact hstored
    · obtain ⟨known, hknown⟩ := h.stored other (List.mem_of_mem_filter hother)
      exact ⟨known, hkeeps _ hknown⟩
  · intro entry hentry
    rcases List.mem_cons.mp (List.mem_of_mem_take hentry) with rfl | hold
    · exact htitle
    · obtain ⟨hold, hne⟩ := List.mem_filter.mp hold
      rw [hothers entry.1 (of_decide_eq_true hne), h.titles entry hold]

/-- Where no link is used nothing changes. -/
theorem idle (h : log.Orderly capacity) (hused : note.used? = none) (hcleared : note ≠ .cleared)
    (hright : note.IsRight capacity log.past) :
    Log.Orderly capacity ⟨log.cache, note :: log.past⟩ := by
  have htitle : ∀ url, note.titleFor? url = none := by
    intro url
    cases note with
    | stored other title => cases hused
    | got other title => rfl
    | asked other found => rfl
    | cleared => rfl
  have hsince : sinceCleared (note :: log.past) = note :: sinceCleared log.past := by
    simp [sinceCleared, hcleared]
  refine ⟨h.capacity_eq, ?_, ?_, ?_, h.answers_cons hright⟩
  · rw [recents_cons_of_idle hused hcleared]
    exact h.links_eq
  · intro url hurl
    rw [recents_cons_of_idle hused hcleared] at hurl
    obtain ⟨title, hstored⟩ := h.stored url hurl
    exact ⟨title, hsince ▸ List.mem_cons_of_mem _ hstored⟩
  · intro entry hentry
    rw [lastTitle?, List.findSome?_cons, htitle]
    exact h.titles entry hentry

theorem act (h : log.Orderly capacity) (hpos : 0 < capacity) (action : Action) :
    (log.act action).Orderly capacity := by
  cases action with
  | get url =>
    have hright : (Note.got url (log.cache.find? url)).IsRight capacity log.past :=
      h.find?_eq_some_iff url
    show Log.Orderly capacity ⟨log.cache.use url, .got url (log.cache.find? url) :: log.past⟩
    cases hfind : log.cache.find? url with
    | none =>
      rw [hfind] at hright
      rw [use_of_find?_eq_none hfind]
      exact h.idle rfl (by simp) hright
    | some title =>
      rw [hfind] at hright
      obtain ⟨⟨⟨known, hstored⟩, -⟩, hlast⟩ := (h.find?_eq_some_iff url title).mp hfind
      rw [use_eq_put hfind (h.capacity_eq ▸ h.size_le)]
      refine h.put hpos rfl hlast (fun _ _ => rfl) ⟨known, ?_⟩ hright
      simpa [sinceCleared] using hstored
  | put url title =>
    refine h.put hpos rfl ?_ ?_ ⟨title, ?_⟩ trivial
    · simp [lastTitle?, Note.titleFor?]
    · intro other hother
      simp [lastTitle?, Note.titleFor?, Ne.symm hother]
    · simp [sinceCleared]
  | contains url => exact h.idle rfl (by simp) (h.contains_iff url)
  | clear =>
    refine ⟨h.capacity_eq, List.take_nil.symm, ?_, ?_, h.answers_cons trivial⟩
    · intro url hurl
      cases hurl
    · intro entry hentry
      cases hentry

end Log.Orderly

theorem orderly_run (capacity : Nat) (actions : List Action) :
    (run capacity actions).Orderly (max 1 capacity) := by
  have hpos : 0 < max 1 capacity := Nat.lt_of_lt_of_le Nat.one_pos (Nat.le_max_left ..)
  have hfold : ∀ log : Log, log.Orderly (max 1 capacity) →
      (actions.foldl Log.act log).Orderly (max 1 capacity) := by
    induction actions with
    | nil => exact fun log h => h
    | cons action actions ih => exact fun log h => ih _ (h.act hpos action)
  refine hfold _ ⟨rfl, List.take_nil.symm, ?_, ?_, ?_⟩
  · intro url hurl
    cases hurl
  · intro entry hentry
    cases hentry
  · intro note before hsuffix
    cases List.suffix_nil.mp hsuffix

/-- After any actions a link is in the cache just if a title was stored for it since all was
cleared and there is room for the other links used since it was used; its title is the one
last stored for it, and no other links are counted. Every answer on the way was right. -/
theorem run_keeps (capacity : Nat) (actions : List Action) :
    let log := run capacity actions
    let room := max 1 capacity
    (∀ url, log.cache.contains url ↔ IsKept room log.past url) ∧
    (∀ url title, log.cache.find? url = some title ↔
      IsKept room log.past url ∧ lastTitle? log.past url = some title) ∧
    {url | IsKept room log.past url}.encard = log.cache.size ∧ log.cache.size ≤ room ∧
    ∀ note before, note :: before <:+ log.past → note.IsRight room before := by
  have h := orderly_run capacity actions
  refine ⟨h.contains_iff, h.find?_eq_some_iff, ?_, h.size_le, h.answers⟩
  -- the links to be kept are those of the cache, which holds none twice
  have hset : {url | IsKept (max 1 capacity) (run capacity actions).past url} =
      ((run capacity actions).cache.links.toFinset : Set String) := by
    ext url
    rw [Set.mem_ofPred_eq, ← h.contains_iff, contains_iff_mem_links, Finset.mem_coe,
      List.mem_toFinset]
  have hnodup : (run capacity actions).cache.links.Nodup := by
    rw [h.links_eq]
    exact (List.take_sublist _ _).nodup (nodup_recents _)
  rw [hset, Set.encard_coe_eq_coe_finsetCard, List.toFinset_card_of_nodup hnodup, links,
    List.length_map]
  rfl

/-- With room for two the one goes that was not looked up. -/
example : (run 2 [.put "a" "A", .put "b" "B", .get "a", .contains "b", .put "c" "C"]).cache.links =
    ["c", "a"] := by decide

end LinkDigest.TitleCache
