/-!
# The title cache

Titles by link, no more than a given number. When there is no room, the title
goes that has not been used for longest; a title is used when it is stored and
when it is read.
-/

namespace LinkDigest

/-- Titles by link. -/
structure TitleCache where
  /-- The most titles kept. -/
  capacity : Nat
  /-- Links with their titles, the last one used first. -/
  entries : List (String × String)
deriving DecidableEq, Repr

namespace TitleCache

/-- Nothing stored yet. There is always room for one title. -/
def new (capacity : Nat) : TitleCache := ⟨max 1 capacity, []⟩

/-- The title of a link; looking is not using. -/
def find? (cache : TitleCache) (url : String) : Option String := cache.entries.lookup url

/-- Whether there is a title of a link; looking is not using. -/
def contains (cache : TitleCache) (url : String) : Bool := (cache.find? url).isSome

/-- Without a link. -/
def erase (cache : TitleCache) (url : String) : TitleCache :=
  { cache with entries := cache.entries.filter fun entry => entry.1 ≠ url }

/-- With a title stored for a link. -/
def put (cache : TitleCache) (url title : String) : TitleCache :=
  { cache with entries := ((url, title) :: (cache.erase url).entries).take cache.capacity }

/-- With a link used, if there is a title of it. -/
def use (cache : TitleCache) (url : String) : TitleCache :=
  match cache.find? url with
  | some title => { cache with entries := (url, title) :: (cache.erase url).entries }
  | none => cache

/-- With nothing stored. -/
def clear (cache : TitleCache) : TitleCache := { cache with entries := [] }

/-- The number of titles. -/
def size (cache : TitleCache) : Nat := cache.entries.length

def isEmpty (cache : TitleCache) : Bool := cache.entries.isEmpty

theorem size_put_le (cache : TitleCache) (url title : String) :
    (cache.put url title).size ≤ cache.capacity := by
  unfold size put
  rw [List.length_take]
  exact Nat.min_le_left ..

theorem find?_put_self (cache : TitleCache) (url title : String) (h : 0 < cache.capacity) :
    (cache.put url title).find? url = some title := by
  unfold find? put
  obtain ⟨room, hroom⟩ : ∃ room, cache.capacity = room + 1 := ⟨cache.capacity - 1, by omega⟩
  simp [hroom]

theorem mem_of_find? {cache : TitleCache} {url title : String}
    (h : cache.find? url = some title) : (url, title) ∈ cache.entries := by
  obtain ⟨front, back, heq, -⟩ := List.lookup_eq_some_iff.mp h
  simp [heq]

theorem use_of_find?_eq_none {cache : TitleCache} {url : String} (h : cache.find? url = none) :
    cache.use url = cache := by
  simp [use, h]

end TitleCache

end LinkDigest
