import LinkDigest.Proofs.Cluster.Ranking
import Mathlib.Data.Char
import Mathlib.Data.List.Lex
import Mathlib.Data.Prod.Lex

/-!
# Hotness as a key

The comparison of clusters is that of one key, which has a linear order: the number of
articles and the average rating, both the other way round, and the address in small letters.
Clusters of one key are tied, and a ranking is the one rearrangement that is sorted and
leaves tied clusters in their order.
-/

namespace LinkDigest

open LinkDigest.Text

/-- What clusters are compared by, the first difference deciding: more articles come first,
then a higher average, then an earlier address. -/
abbrev Hotness := ℕᵒᵈ ×ₗ ℚᵒᵈ ×ₗ List Char

def Cluster.hotness (cluster : Cluster) : Hotness :=
  toLex (.toDual cluster.referenceCount,
    toLex (.toDual cluster.average.value, lowercase cluster.url.toList))

namespace Ranking

/-! ## The key -/

/-- A comparison that looks at second things where the first ones are the same. -/
theorem compares_then {α β γ : Type} [LT α] [LT β] [LT γ] {x y : α} {a c : β} {b d : γ}
    {first second : Ordering} (hlt : a < c ∨ a = c ∧ b < d → x < y) (heq : a = c → b = d → x = y)
    (hgt : c < a ∨ c = a ∧ d < b → y < x) (hfirst : first.Compares a c)
    (hsecond : second.Compares b d) : (first.then second).Compares x y := by
  cases first with
  | lt => exact hlt (.inl hfirst)
  | gt => exact hgt (.inl hfirst)
  | eq =>
    cases second with
    | lt => exact hlt (.inr ⟨hfirst, hsecond⟩)
    | eq => exact heq hfirst hsecond
    | gt => exact hgt (.inr ⟨Eq.symm hfirst, hsecond⟩)

theorem compares_toLex {α β : Type} [LT α] [LT β] {a c : α} {b d : β} {first second : Ordering}
    (hfirst : first.Compares a c) (hsecond : second.Compares b d) :
    (first.then second).Compares (toLex (a, b)) (toLex (c, d)) :=
  compares_then Prod.Lex.toLex_lt_toLex.mpr (by rintro rfl rfl; rfl) Prod.Lex.toLex_lt_toLex.mpr
    hfirst hsecond

theorem compareText_compares (s t : List Char) : (compareText s t).Compares s t := by
  induction s generalizing t with
  | nil =>
    cases t with
    | nil => exact rfl
    | cons d t => exact List.nil_lt_cons d t
  | cons c s ih =>
    cases t with
    | nil => exact List.nil_lt_cons c s
    | cons d t =>
      have hchar : (compare c.toNat d.toNat).Compares c d := by
        have hcode := (compare_iff c.toNat d.toNat).mp rfl
        generalize compare c.toNat d.toNat = first at hcode ⊢
        cases first with
        | lt => exact hcode
        | eq => exact Char.toNat_inj.mp hcode
        | gt => exact hcode
      exact compares_then List.cons_lt_cons_iff.mpr (by rintro rfl rfl; rfl)
        List.cons_lt_cons_iff.mpr hchar (ih t)

/-- Clusters compare as their keys do. -/
theorem compareHotness_compares (a b : Cluster) :
    (compareHotness a b).Compares a.hotness b.hotness := by
  unfold compareHotness
  rw [Average.compare_eq]
  refine compares_toLex ?_ (compares_toLex ?_ (compareText_compares _ _))
  · exact toDual_compares_toDual.mpr ((compare_iff _ _).mp rfl)
  · exact toDual_compares_toDual.mpr ((compare_iff _ _).mp rfl)

theorem compareHotness_eq_eq_iff {a b : Cluster} :
    compareHotness a b = .eq ↔ a.hotness = b.hotness := (compareHotness_compares a b).eq_eq

theorem compareHotness_ne_gt_iff {a b : Cluster} :
    compareHotness a b ≠ .gt ↔ a.hotness ≤ b.hotness := (compareHotness_compares a b).ne_gt

/-! ## Ties -/

/-- Whether two clusters are equally hot. -/
def areTied (a b : Cluster) : Bool := compareHotness a b = .eq

theorem areTied_iff {a b : Cluster} : areTied a b ↔ a.hotness = b.hotness := by
  rw [areTied, decide_eq_true_eq, compareHotness_eq_eq_iff]

/-- Sorting leaves things in their order that may stand either way round. -/
theorem filter_mergeSort {α : Type} {le : α → α → Bool}
    (htrans : ∀ a b c, le a b → le b c → le a c) (htotal : ∀ a b, le a b || le b a)
    {p : α → Bool} (htied : ∀ a b, p a → p b → le a b) (items : List α) :
    (items.mergeSort le).filter p = items.filter p := by
  have hsorted : (items.filter p).Pairwise fun a b => le a b :=
    List.pairwise_of_forall_mem_list fun a ha b hb =>
      htied a b (List.mem_filter.mp ha).2 (List.mem_filter.mp hb).2
  have hkept : ((items.filter p).filter p).Sublist ((items.mergeSort le).filter p) :=
    (List.sublist_mergeSort htrans htotal hsorted List.filter_sublist).filter p
  simp only [List.filter_filter, Bool.and_self] at hkept
  refine (hkept.eq_of_length ?_).symm
  exact ((List.mergeSort_perm items le).filter p).length_eq.symm

theorem filter_rank (cluster : Cluster) (clusters : List Cluster) :
    (rank clusters).filter (areTied cluster) = clusters.filter (areTied cluster) := by
  refine filter_mergeSort mayPrecede_trans mayPrecede_total ?_ clusters
  intro a b ha hb
  have hsame : a.hotness = b.hotness := (areTied_iff.mp ha).symm.trans (areTied_iff.mp hb)
  rw [mayPrecede, compareHotness_eq_eq_iff.mpr hsame]
  rfl

/-- Sorted rearrangements of each other are the same if their ties stand alike. -/
theorem eq_of_sorted_of_ties {xs ys : List Cluster} (hperm : xs.Perm ys)
    (hxs : xs.Pairwise fun a b => compareHotness a b ≠ .gt)
    (hys : ys.Pairwise fun a b => compareHotness a b ≠ .gt)
    (hties : ∀ cluster, xs.filter (areTied cluster) = ys.filter (areTied cluster)) : xs = ys := by
  induction xs generalizing ys with
  | nil => exact hperm.nil_eq
  | cons x xs ih =>
    cases ys with
    | nil => exact absurd hperm.eq_nil (List.cons_ne_nil x xs)
    | cons y ys =>
      have hfirst : ∀ {a b : Cluster} {as bs : List Cluster}, (a :: as).Perm (b :: bs) →
          ((a :: as).Pairwise fun c d => compareHotness c d ≠ .gt) → a.hotness ≤ b.hotness := by
        intro a b as bs hmem hsorted
        rcases List.mem_cons.mp (hmem.mem_iff.mpr List.mem_cons_self) with rfl | hb
        · exact le_rfl
        · exact compareHotness_ne_gt_iff.mp (List.rel_of_pairwise_cons hsorted hb)
      have htied : areTied x x ∧ areTied x y :=
        ⟨areTied_iff.mpr rfl,
          areTied_iff.mpr (le_antisymm (hfirst hperm hxs) (hfirst hperm.symm hys))⟩
      have hsame : x = y := by
        have hheads := hties x
        rw [List.filter_cons_of_pos htied.1, List.filter_cons_of_pos htied.2] at hheads
        exact (List.cons_eq_cons.mp hheads).1
      subst hsame
      rw [ih hperm.cons_inv hxs.of_cons hys.of_cons fun cluster => ?_]
      have hrest := hties cluster
      rw [List.filter_cons, List.filter_cons] at hrest
      split at hrest
      · exact (List.cons_eq_cons.mp hrest).2
      · exact hrest

/-- The comparison of clusters is that of their keys, so it is one of a total preorder, and a
ranking is the one rearrangement that is sorted by it and leaves tied clusters in their order. -/
theorem rank_byHotness :
    (∀ a b, (compareHotness a b).Compares a.hotness b.hotness) ∧
    (∀ a, compareHotness a a = .eq) ∧
    (∀ a b, compareHotness b a = (compareHotness a b).swap) ∧
    (∀ a b c, compareHotness a b ≠ .gt → compareHotness b c ≠ .gt → compareHotness a c ≠ .gt) ∧
    ∀ clusters ranked, ranked = rank clusters ↔
      ranked.Perm clusters ∧ (ranked.Pairwise fun a b => compareHotness a b ≠ .gt) ∧
      ∀ cluster, ranked.filter (areTied cluster) = clusters.filter (areTied cluster) := by
  refine ⟨compareHotness_compares, fun a => compareHotness_eq_eq_iff.mpr rfl,
    fun a b => Std.OrientedCmp.eq_swap, fun a b c hab hbc => ?_, fun clusters ranked => ⟨?_, ?_⟩⟩
  · rw [compareHotness_ne_gt_iff] at *
    exact hab.trans hbc
  · rintro rfl
    exact ⟨rank_perm clusters, rank_sorted clusters, fun cluster => filter_rank cluster clusters⟩
  · rintro ⟨hperm, hsorted, hties⟩
    refine eq_of_sorted_of_ties (hperm.trans (rank_perm clusters).symm) hsorted
      (rank_sorted clusters) fun cluster => ?_
    exact (hties cluster).trans (filter_rank cluster clusters).symm

end Ranking

end LinkDigest
