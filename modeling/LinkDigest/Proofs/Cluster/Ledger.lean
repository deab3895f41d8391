import LinkDigest.Proofs.Cluster.Contributors
import Mathlib.Algebra.Order.BigOperators.Group.List
import Mathlib.Data.Finset.Dedup
import Mathlib.Data.Finset.Insert

/-!
# Clusters in words

A cluster as a machine keeps it: beside its articles the set of their identifiers, the sum of
the ratings in 64 bits with a sign, and the number of ratings in 32 bits. Sums and products in
words are those of the numbers as long as these are words themselves. For ratings of 32 bits
the sum is one while there are not more than 2^32 of them, and what averages are compared by
while there are not more than 2^16.
-/

namespace LinkDigest

/-- Whether a number is one of 64 bits with a sign. -/
def IsWord (n : Int) : Prop := Int64.minValue.toInt ≤ n ∧ n ≤ Int64.maxValue.toInt

theorem isWord_iff {n : Int} :
    IsWord n ↔ -9223372036854775808 ≤ n ∧ n ≤ 9223372036854775807 := Iff.rfl

/-- Whether the rating of a feed is a number of 32 bits with a sign. -/
def Feed.HasShortRating (feed : Feed) : Prop :=
  Int32.minValue.toInt ≤ feed.rating ∧ feed.rating ≤ Int32.maxValue.toInt

theorem minShort : Int32.minValue.toInt = -2147483648 := rfl

theorem maxShort : Int32.maxValue.toInt = 2147483647 := rfl

/-! ## The ledger -/

/-- What is kept of a cluster. -/
structure Ledger where
  articles : List Article
  /-- The identifiers of the articles. -/
  seen : Finset Ident
  /-- The sum of the ratings of the rated feeds. -/
  sum : Int64
  /-- The number of articles of rated feeds. -/
  count : UInt32

namespace Ledger

/-- Without articles. -/
def new : Ledger := ⟨[], ∅, 0, 0⟩

/-- With one article more, unless its identifier has been seen. -/
def add (ledger : Ledger) (article : Article) : Ledger :=
  if article.id ∈ ledger.seen then ledger
  else
    { articles := ledger.articles ++ [article]
      seen := insert article.id ledger.seen
      sum := if article.feed.isRated then ledger.sum + Int64.ofInt article.feed.rating
        else ledger.sum
      count := if article.feed.isRated then ledger.count + 1 else ledger.count }

/-- The ledger of articles added in order. -/
def ofArticles (articles : List Article) : Ledger := articles.foldl add new

/-- The sign of a word. -/
def signOf (word : Int64) : Int64 := if word < 0 then -1 else if word = 0 then 0 else 1

/-- The order of average ratings, found by multiplying crosswise. -/
def compareAverage (a b : Ledger) : Ordering :=
  if a.count = 0 then
    if b.count = 0 then .eq else compare 0 (signOf b.sum)
  else if b.count = 0 then compare (signOf a.sum) 0
  else compare (a.sum * Int64.ofNat b.count.toNat) (b.sum * Int64.ofNat a.count.toNat)

end Ledger

namespace Cluster

/-- What is kept of a cluster, its numbers cut to words. -/
def toLedger (cluster : Cluster) : Ledger :=
  ⟨cluster.articles, (cluster.articles.map Article.id).toFinset, Int64.ofInt cluster.ratingSum,
    UInt32.ofNat cluster.ratingCount⟩

theorem contains_iff_mem_seen (cluster : Cluster) (article : Article) :
    cluster.contains article ↔ article.id ∈ cluster.toLedger.seen := by
  simp [contains, toLedger]

/-- Whatever the numbers are, an article is added to what is kept as it is to the cluster. -/
theorem toLedger_add (cluster : Cluster) (article : Article) :
    (cluster.add article).toLedger = cluster.toLedger.add article := by
  unfold add Ledger.add
  by_cases hknown : cluster.contains article
  · rw [if_pos hknown, if_pos ((contains_iff_mem_seen ..).mp hknown)]
  · rw [if_neg hknown, if_neg ((contains_iff_mem_seen ..).not.mp hknown)]
    have hseen : ((cluster.articles ++ [article]).map Article.id).toFinset =
        insert article.id (cluster.articles.map Article.id).toFinset := by
      ext id
      simp only [List.map_append, List.map_cons, List.map_nil, List.mem_toFinset,
        List.mem_append, List.mem_singleton, Finset.mem_insert]
      exact or_comm
    simp only [toLedger, hseen]
    split <;> simp [Int64.ofInt_add, UInt32.ofNat_add]

theorem toLedger_ofArticles (url : String) (articles : List Article) :
    (ofArticles url articles).toLedger = Ledger.ofArticles articles := by
  have hfold : ∀ cluster : Cluster, (articles.foldl add cluster).toLedger =
      articles.foldl Ledger.add cluster.toLedger := by
    induction articles with
    | nil => exact fun _ => rfl
    | cons article rest ih =>
      intro cluster
      rw [List.foldl_cons, List.foldl_cons, ih, toLedger_add]
  exact hfold (new url)

/-! ## Bounds -/

variable {articles : List Article}

/-- The sum of ratings of 32 bits lies between as many of the least and of the greatest. -/
theorem ratingSum_bounds (h : ∀ article ∈ articles, article.feed.HasShortRating) (url : String) :
    let cluster := ofArticles url articles
    cluster.ratingCount * Int32.minValue.toInt ≤ cluster.ratingSum ∧
      cluster.ratingSum ≤ cluster.ratingCount * Int32.maxValue.toInt := by
  intro cluster
  obtain ⟨hsum, hcount⟩ := ratingsAgree_ofArticles url articles
  have hrating : ∀ rating ∈ ratings cluster.articles,
      Int32.minValue.toInt ≤ rating ∧ rating ≤ Int32.maxValue.toInt := by
    intro rating hmem
    obtain ⟨article, harticle, rfl⟩ := List.mem_map.mp hmem
    have hkept : article ∈ firstOfEach articles := by
      rw [← articles_ofArticles url articles]
      exact List.mem_of_mem_filter harticle
    exact h article ((firstOfEach_sublist articles).subset hkept)
  rw [hsum, hcount, ← nsmul_eq_mul, ← nsmul_eq_mul]
  exact ⟨List.card_nsmul_le_sum _ _ fun rating hmem => (hrating rating hmem).1,
    List.sum_le_card_nsmul _ _ fun rating hmem => (hrating rating hmem).2⟩

theorem ratingCount_le (url : String) (articles : List Article) :
    (ofArticles url articles).ratingCount ≤ (ofArticles url articles).referenceCount := by
  rw [(ratingsAgree_ofArticles url articles).ratingCount, ratings, List.length_map]
  exact List.length_filter_le _ _

/-- There are no fewer articles when more are added. -/
theorem referenceCount_mono {before : List Article} (h : before <+: articles) (url : String) :
    (ofArticles url before).referenceCount ≤ (ofArticles url articles).referenceCount := by
  obtain ⟨after, rfl⟩ := h
  unfold referenceCount ofArticles
  rw [List.foldl_append, articles_foldl_add after, List.length_append]
  exact Nat.le_add_right ..

/-- The sum is a word while there are at most 2^32 articles. -/
theorem isWord_ratingSum (h : ∀ article ∈ articles, article.feed.HasShortRating) (url : String)
    (hfew : (ofArticles url articles).referenceCount ≤ 4294967296) :
    IsWord (ofArticles url articles).ratingSum := by
  obtain ⟨hleast, hgreatest⟩ := ratingSum_bounds h url
  have hcount := (ratingCount_le url articles).trans hfew
  rw [minShort] at hleast
  rw [maxShort] at hgreatest
  rw [isWord_iff]
  omega

/-- Averages of at most 2^16 ratings each are multiplied crosswise within words. The bound is
reached where all ratings are the least one. -/
theorem isWord_ratingSum_mul (h : ∀ article ∈ articles, article.feed.HasShortRating) (url : String)
    (hfew : (ofArticles url articles).referenceCount ≤ 65536) {count : Nat}
    (hcount : count ≤ 65536) : IsWord ((ofArticles url articles).ratingSum * count) := by
  obtain ⟨hleast, hgreatest⟩ := ratingSum_bounds h url
  have hfew := (ratingCount_le url articles).trans hfew
  rw [minShort] at hleast
  rw [maxShort] at hgreatest
  have hpairs : (ofArticles url articles).ratingCount * count ≤ 65536 * 65536 :=
    Nat.mul_le_mul hfew hcount
  have hpairs : ((ofArticles url articles).ratingCount * count : Int) ≤ 65536 * 65536 := by
    exact_mod_cast hpairs
  have hpos : (0 : Int) ≤ count := Int.natCast_nonneg count
  have hleast := Int.mul_le_mul_of_nonneg_right hleast hpos
  have hgreatest := Int.mul_le_mul_of_nonneg_right hgreatest hpos
  rw [Int.mul_right_comm] at hleast hgreatest
  have hnone : (0 : Int) ≤ (ofArticles url articles).ratingCount * count :=
    Int.mul_nonneg (Int.natCast_nonneg _) hpos
  rw [isWord_iff]
  omega

end Cluster

/-! ## Exactness -/

theorem toInt_ofInt {n : Int} (h : IsWord n) : (Int64.ofInt n).toInt = n := by
  rw [isWord_iff] at h
  exact Int64.toInt_ofInt_of_le (by omega) (by omega)

namespace Ledger

theorem compare_eq (a b : Int64) : compare a b = compare a.toInt b.toInt := by
  show compareOfLessAndEq a b = compareOfLessAndEq a.toInt b.toInt
  simp only [compareOfLessAndEq, Int64.lt_iff_toInt_lt, Int64.toInt_inj]

@[simp] theorem toInt_signOf (word : Int64) : (signOf word).toInt = word.toInt.sign := by
  unfold signOf
  simp only [Int64.lt_iff_toInt_lt, ← Int64.toInt_inj, Int64.toInt_zero]
  split
  · rw [Int.sign_eq_neg_one_of_neg (by assumption)]
    rfl
  · split
    · rename_i hzero
      rw [hzero]
      rfl
    · rw [Int.sign_eq_one_of_pos (by omega)]
      rfl

/-- Averages are compared in words as they are, if sums, counts and what is multiplied
crosswise are words. -/
theorem compareAverage_toLedger {a b : Cluster} (ha : IsWord a.ratingSum)
    (hb : IsWord b.ratingSum) (hcountA : a.ratingCount < UInt32.size)
    (hcountB : b.ratingCount < UInt32.size) (hleft : IsWord (a.ratingSum * b.ratingCount))
    (hright : IsWord (b.ratingSum * a.ratingCount)) :
    a.toLedger.compareAverage b.toLedger = Average.compare a.average b.average := by
  have hzero : ∀ {n : Nat}, n < UInt32.size → (UInt32.ofNat n = 0 ↔ n = 0) := by
    intro n hn
    rw [← UInt32.toNat_inj, UInt32.toNat_ofNat_of_lt' hn]
    rfl
  unfold compareAverage Average.compare Cluster.toLedger Cluster.average
  simp only [hzero hcountA, hzero hcountB, UInt32.toNat_ofNat_of_lt' hcountA,
    UInt32.toNat_ofNat_of_lt' hcountB, ← Int64.ofInt_eq_ofNat, ← Int64.ofInt_mul, compare_eq,
    toInt_signOf, toInt_ofInt ha, toInt_ofInt hb, toInt_ofInt hleft, toInt_ofInt hright]
  cases hm : a.ratingCount with
  | zero =>
    cases hn : b.ratingCount with
    | zero => rfl
    | succ n => rfl
  | succ m =>
    cases hn : b.ratingCount with
    | zero => rfl
    | succ n => rfl

/-- Whether a ledger says of a cluster what is so. -/
structure Keeps (ledger : Ledger) (cluster : Cluster) : Prop where
  articles : ledger.articles = cluster.articles
  seen : ∀ id, id ∈ ledger.seen ↔ id ∈ cluster.articles.map Article.id
  sum : ledger.sum.toInt = cluster.ratingSum
  count : ledger.count.toNat = cluster.ratingCount

theorem keeps_ofArticles {articles : List Article}
    (h : ∀ article ∈ articles, article.feed.HasShortRating) (url : String)
    (hfew : (Cluster.ofArticles url articles).referenceCount < UInt32.size) :
    (ofArticles articles).Keeps (Cluster.ofArticles url articles) := by
  have hcount : (Cluster.ofArticles url articles).ratingCount < UInt32.size :=
    Nat.lt_of_le_of_lt (Cluster.ratingCount_le url articles) hfew
  rw [← Cluster.toLedger_ofArticles url]
  exact ⟨rfl, fun id => List.mem_toFinset,
    toInt_ofInt (Cluster.isWord_ratingSum h url (Nat.le_of_lt hfew)),
    UInt32.toNat_ofNat_of_lt' hcount⟩

/-- No sum on the way is cut. -/
theorem keeps_before {articles before : List Article} (hbefore : before <+: articles)
    (h : ∀ article ∈ articles, article.feed.HasShortRating) (url : String)
    (hfew : (Cluster.ofArticles url articles).referenceCount < UInt32.size) :
    IsWord (Cluster.ofArticles url before).ratingSum ∧
      (ofArticles before).Keeps (Cluster.ofArticles url before) := by
  have hshort := fun article harticle => h article (hbefore.subset harticle)
  have hless : (Cluster.ofArticles url before).referenceCount < UInt32.size :=
    Nat.lt_of_le_of_lt (Cluster.referenceCount_mono hbefore url) hfew
  exact ⟨Cluster.isWord_ratingSum hshort url (Nat.le_of_lt hless), keeps_ofArticles hshort url hless⟩

/-- Of at most 65536 articles each, with ratings of 32 bits, the ratings add up within 64 bits
on the way, and so do the products that averages are compared by. So averages compare in
words as they do in numbers without bounds. -/
theorem compareAverage_exact {one other : List Article} (urlOne urlOther : String)
    (hone : ∀ article ∈ one, article.feed.HasShortRating)
    (hother : ∀ article ∈ other, article.feed.HasShortRating)
    (hfewOne : (Cluster.ofArticles urlOne one).referenceCount ≤ 65536)
    (hfewOther : (Cluster.ofArticles urlOther other).referenceCount ≤ 65536) :
    let a := Cluster.ofArticles urlOne one
    let b := Cluster.ofArticles urlOther other
    (∀ before, before <+: one → IsWord (Cluster.ofArticles urlOne before).ratingSum ∧
      (ofArticles before).Keeps (Cluster.ofArticles urlOne before)) ∧
    (∀ before, before <+: other → IsWord (Cluster.ofArticles urlOther before).ratingSum ∧
      (ofArticles before).Keeps (Cluster.ofArticles urlOther before)) ∧
    IsWord (a.ratingSum * b.ratingCount) ∧ IsWord (b.ratingSum * a.ratingCount) ∧
    (ofArticles one).compareAverage (ofArticles other) = Average.compare a.average b.average := by
  intro a b
  have hroom : 65536 < UInt32.size := by decide
  have hsumsA := fun before (hbefore : before <+: one) =>
    keeps_before hbefore hone urlOne (Nat.lt_of_le_of_lt hfewOne hroom)
  have hsumsB := fun before (hbefore : before <+: other) =>
    keeps_before hbefore hother urlOther (Nat.lt_of_le_of_lt hfewOther hroom)
  have hcountA : a.ratingCount ≤ 65536 := (Cluster.ratingCount_le urlOne one).trans hfewOne
  have hcountB : b.ratingCount ≤ 65536 := (Cluster.ratingCount_le urlOther other).trans hfewOther
  have hleft := Cluster.isWord_ratingSum_mul hone urlOne hfewOne hcountB
  have hright := Cluster.isWord_ratingSum_mul hother urlOther hfewOther hcountA
  refine ⟨hsumsA, hsumsB, hleft, hright, ?_⟩
  rw [← Cluster.toLedger_ofArticles urlOne, ← Cluster.toLedger_ofArticles urlOther]
  exact compareAverage_toLedger (hsumsA one (List.prefix_refl one)).1
    (hsumsB other (List.prefix_refl other)).1 (Nat.lt_of_le_of_lt hcountA hroom)
    (Nat.lt_of_le_of_lt hcountB hroom) hleft hright

/-! ## A crowd of one rating -/

/-- Articles of their own identifiers, of feeds that are rated alike. -/
def crowd (size : Nat) (rating : Int) : List Article :=
  (List.range size).map fun place =>
    ⟨.issued [place], "", ⟨.issued [], "", none, rating, [], true⟩, none, .epoch, false, [], none⟩

theorem articles_crowd (url : String) (size : Nat) (rating : Int) :
    (Cluster.ofArticles url (crowd size rating)).articles = crowd size rating := by
  rw [Cluster.articles_ofArticles]
  refine firstOfEach_eq_self ?_
  rw [crowd, List.map_map]
  refine List.nodup_range.map fun place other h => ?_
  simpa using h

theorem referenceCount_crowd (url : String) (size : Nat) (rating : Int) :
    (Cluster.ofArticles url (crowd size rating)).referenceCount = size := by
  rw [Cluster.referenceCount, articles_crowd, crowd, List.length_map, List.length_range]

theorem rating_of_mem_crowd {size : Nat} {rating : Int} {article : Article}
    (h : article ∈ crowd size rating) : article.feed.rating = rating := by
  obtain ⟨place, -, rfl⟩ := List.mem_map.mp h
  rfl

theorem ratings_crowd (url : String) (size : Nat) {rating : Int} (h : rating ≠ Feed.unrated) :
    (Cluster.ofArticles url (crowd size rating)).ratingSum = size * rating ∧
      (Cluster.ofArticles url (crowd size rating)).ratingCount = size := by
  obtain ⟨hsum, hcount⟩ := Cluster.ratingsAgree_ofArticles url (crowd size rating)
  have hratings : Cluster.ratings (crowd size rating) = List.replicate size rating := by
    rw [Cluster.ratings, List.filter_eq_self.mpr fun article harticle => by
      simpa [rating_of_mem_crowd harticle] using h, List.eq_replicate_iff]
    exact ⟨by simp [crowd], List.forall_mem_map.mpr fun article => rating_of_mem_crowd⟩
  rw [articles_crowd, hratings] at hsum hcount
  rw [hsum, hcount]
  simp

/-- The greatest number of articles and the least rating make the least word. -/
theorem compareAverage_exact_leastRatings :
    let one := crowd 65536 Int32.minValue.toInt
    let other := crowd 65536 Int32.maxValue.toInt
    let a := Cluster.ofArticles "http://a.test/" one
    let b := Cluster.ofArticles "http://b.test/" other
    (∀ article ∈ one, article.feed.HasShortRating) ∧
    (∀ article ∈ other, article.feed.HasShortRating) ∧
    a.referenceCount ≤ 65536 ∧ b.referenceCount ≤ 65536 ∧
    a.ratingSum * b.ratingCount = Int64.minValue.toInt ∧ IsWord (a.ratingSum * b.ratingCount) ∧
    (ofArticles one).compareAverage (ofArticles other) = .lt := by
  have hshort : ∀ rating, Int32.minValue.toInt ≤ rating ∧ rating ≤ Int32.maxValue.toInt →
      ∀ article ∈ crowd 65536 rating, article.feed.HasShortRating := by
    intro rating hrating article harticle
    rwa [Feed.HasShortRating, rating_of_mem_crowd harticle]
  have hone := hshort Int32.minValue.toInt (by decide)
  have hother := hshort Int32.maxValue.toInt (by decide)
  have hsize := fun url rating => Nat.le_of_eq (referenceCount_crowd url 65536 rating)
  obtain ⟨hsumA, hcountA⟩ := ratings_crowd "http://a.test/" 65536
    (show Int32.minValue.toInt ≠ Feed.unrated by decide)
  obtain ⟨hsumB, hcountB⟩ := ratings_crowd "http://b.test/" 65536
    (show Int32.maxValue.toInt ≠ Feed.unrated by decide)
  obtain ⟨-, -, hword, -, hcompare⟩ := compareAverage_exact "http://a.test/" "http://b.test/" hone
    hother (hsize _ _) (hsize _ _)
  refine ⟨hone, hother, hsize _ _, hsize _ _, ?_, hword, ?_⟩
  · rw [hsumA, hcountB]
    decide +kernel
  · rw [hcompare, Cluster.average, Cluster.average, hsumA, hcountA, hsumB, hcountB]
    decide +kernel

end Ledger

end LinkDigest
