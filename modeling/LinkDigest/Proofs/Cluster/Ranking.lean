import LinkDigest.Cluster.Ranking
import Mathlib.Algebra.Order.Field.Basic
import Mathlib.Data.Rat.Cast.Order

/-!
# The order of hotness

Clusters are compared by three keys in turn, each of which has a linear order:
the number of articles, the exact average rating and the address in small
letters. So the comparison is one of a total preorder, and a ranking is sorted
by it.
-/

namespace LinkDigest

/-- Two comparisons agree if they find the same things less. -/
theorem compare_congr {α β : Type} [LinearOrder α] [LinearOrder β] {a b : α} {x y : β}
    (hlt : a < b ↔ x < y) (hgt : b < a ↔ y < x) : compare a b = compare x y := by
  rcases lt_trichotomy x y with h | h | h
  · rw [compare_lt_iff_lt.mpr h, compare_lt_iff_lt.mpr (hlt.mpr h)]
  · rw [compare_eq_iff_eq.mpr h, compare_eq_iff_eq]
    exact le_antisymm (not_lt.mp fun hless => h.not_gt (hgt.mp hless))
      (not_lt.mp fun hless => h.not_lt (hlt.mp hless))
  · rw [compare_gt_iff_gt.mpr h, compare_gt_iff_gt.mpr (hgt.mpr h)]

/-! ## Averages as fractions -/

namespace Average

/-- The average as a fraction; zero where nothing was rated. -/
def value (average : Average) : ℚ := if average.count = 0 then 0 else average.sum / average.count

section

variable {x y : Int} {m n : Nat} (hm : m ≠ 0)

include hm

/-- Divided by how many were added, a sum keeps its sign. -/
theorem sign_lt_zero_iff : x.sign < 0 ↔ (x / m : ℚ) < 0 := by
  have hpos : (0 : ℚ) < m := by exact_mod_cast Nat.pos_of_ne_zero hm
  rw [Int.sign_neg_iff, div_lt_iff₀ hpos, zero_mul, Int.cast_lt_zero]

theorem zero_lt_sign_iff : 0 < x.sign ↔ (0 : ℚ) < x / m := by
  have hpos : (0 : ℚ) < m := by exact_mod_cast Nat.pos_of_ne_zero hm
  rw [Int.sign_pos_iff, div_pos_iff_of_pos_right hpos, Int.cast_pos]

theorem cross_lt_cross_iff (hn : n ≠ 0) : x * n < y * m ↔ (x / m : ℚ) < y / n := by
  have hm : (0 : ℚ) < m := by exact_mod_cast Nat.pos_of_ne_zero hm
  have hn : (0 : ℚ) < n := by exact_mod_cast Nat.pos_of_ne_zero hn
  rw [div_lt_div_iff₀ hm hn]
  exact_mod_cast Iff.rfl

end

theorem value_succ (x : Int) (n : Nat) : value ⟨x, n + 1⟩ = x / (n + 1 : Nat) :=
  if_neg n.succ_ne_zero

/-- Signs and crosswise products compare the fractions. -/
theorem compare_eq (a b : Average) : compare a b = Ord.compare a.value b.value := by
  obtain ⟨x, m⟩ := a
  obtain ⟨y, n⟩ := b
  cases m with
  | zero =>
    cases n with
    | zero => rfl
    | succ n =>
      rw [value_succ y]
      exact compare_congr (zero_lt_sign_iff n.succ_ne_zero) (sign_lt_zero_iff n.succ_ne_zero)
  | succ m =>
    rw [value_succ x]
    cases n with
    | zero =>
      exact compare_congr (sign_lt_zero_iff m.succ_ne_zero) (zero_lt_sign_iff m.succ_ne_zero)
    | succ n =>
      rw [value_succ y]
      exact compare_congr (cross_lt_cross_iff m.succ_ne_zero n.succ_ne_zero)
        (cross_lt_cross_iff n.succ_ne_zero m.succ_ne_zero)

/-- Without ratings a link stands above one with bad ratings. -/
example : compare ⟨0, 0⟩ ⟨-6, 2⟩ = .gt := by decide

instance : Std.TransCmp compare := by
  have h : compare = fun a b => Ord.compare a.value b.value := by
    funext a b
    exact compare_eq a b
  rw [h]
  exact inferInstanceAs (Std.TransCmp (compareOn value))

end Average

/-! ## The comparison of clusters -/

namespace Ranking

open LinkDigest.Text

theorem compareText_eq_compareLex (s t : List Char) :
    compareText s t = List.compareLex (compareOn Char.toNat) s t := by
  induction s generalizing t with
  | nil => cases t <;> rfl
  | cons c s ih =>
    cases t with
    | nil => rfl
    | cons d t =>
      rw [List.compareLex_cons_cons, compareText, ih]
      rfl

instance : Std.TransCmp compareText := by
  have h : compareText = List.compareLex (compareOn Char.toNat) := by
    funext s t
    exact compareText_eq_compareLex s t
  rw [h]
  infer_instance

/-- The comparison by the number of articles, the greater one first. -/
def compareCount (a b : Cluster) : Ordering := compare b.referenceCount a.referenceCount

/-- The comparison by the average rating, the higher one first. -/
def compareAverage (a b : Cluster) : Ordering := Average.compare b.average a.average

/-- The comparison by the address in small letters. -/
def compareAddress (a b : Cluster) : Ordering :=
  compareText (lowercase a.url.toList) (lowercase b.url.toList)

theorem compareHotness_eq_compareLex :
    compareHotness = compareLex compareCount (compareLex compareAverage compareAddress) := rfl

/-- A comparison of keys is one of the things that have them. -/
theorem transCmp_comap {α β : Type} (cmp : β → β → Ordering) [Std.TransCmp cmp] (key : α → β) :
    Std.TransCmp fun a b => cmp (key a) (key b) where
  eq_swap := Std.OrientedCmp.eq_swap
  isLE_trans := Std.TransCmp.isLE_trans

instance : Std.TransCmp compareHotness := by
  have hcount : Std.TransCmp compareCount :=
    transCmp_comap (fun a b => compare b a) Cluster.referenceCount
  have haverage : Std.TransCmp compareAverage :=
    transCmp_comap (fun a b => Average.compare b a) Cluster.average
  have haddress : Std.TransCmp compareAddress :=
    transCmp_comap compareText fun cluster : Cluster => lowercase cluster.url.toList
  rw [compareHotness_eq_compareLex]
  infer_instance

/-! ## Rankings -/

theorem mayPrecede_iff (a b : Cluster) : mayPrecede a b ↔ (compareHotness a b).isLE := by
  unfold mayPrecede
  cases compareHotness a b <;> decide

theorem mayPrecede_trans (a b c : Cluster) (h : mayPrecede a b) (h' : mayPrecede b c) :
    mayPrecede a c := by
  rw [mayPrecede_iff] at h h' ⊢
  exact Std.TransCmp.isLE_trans h h'

theorem mayPrecede_total (a b : Cluster) : (mayPrecede a b || mayPrecede b a) := by
  have hswap : compareHotness b a = (compareHotness a b).swap := Std.OrientedCmp.eq_swap
  rw [Bool.or_eq_true, mayPrecede_iff, mayPrecede_iff, hswap]
  cases compareHotness a b <;> decide

theorem rank_perm (clusters : List Cluster) : (rank clusters).Perm clusters :=
  rankBy_perm id clusters

/-- A ranking is sorted: none stands after a hotter one. -/
theorem rank_sorted (clusters : List Cluster) :
    (rank clusters).Pairwise fun a b => compareHotness a b ≠ .gt := by
  have hsorted : (clusters.mergeSort mayPrecede).Pairwise fun a b => mayPrecede a b :=
    List.pairwise_mergeSort mayPrecede_trans mayPrecede_total clusters
  refine hsorted.imp fun {a b} h => ?_
  simpa [mayPrecede] using h

end Ranking

end LinkDigest
