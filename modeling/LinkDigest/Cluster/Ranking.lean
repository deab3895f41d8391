import LinkDigest.Cluster.Basic
import LinkDigest.Text.Lowercase

/-!
# Ranking

Links by hotness: first the one with more articles, then the one with the
higher average rating, then the one whose address comes first in small letters.
-/

namespace LinkDigest.Ranking

open LinkDigest.Text

/-- The order of texts by their characters. -/
def compareText : List Char → List Char → Ordering
  | [], [] => .eq
  | [], _ :: _ => .lt
  | _ :: _, [] => .gt
  | a :: as, b :: bs => (compare a.toNat b.toNat).then (compareText as bs)

/-- The order of two clusters, the hotter one first. -/
def compareHotness (a b : Cluster) : Ordering :=
  (compare b.referenceCount a.referenceCount).then
    ((Average.compare b.average a.average).then
      (compareText (lowercase a.url.toList) (lowercase b.url.toList)))

/-- Whether the first cluster may stand before the second. -/
def mayPrecede (a b : Cluster) : Bool := compareHotness a b != .gt

/-- Items in order of their clusters, the hottest first. Items that are equally
hot keep their order. -/
def rankBy {α : Type} (cluster : α → Cluster) (items : List α) : List α :=
  items.mergeSort fun a b => mayPrecede (cluster a) (cluster b)

/-- Clusters, the hottest first. -/
def rank (clusters : List Cluster) : List Cluster := rankBy id clusters

theorem rankBy_perm {α : Type} (cluster : α → Cluster) (items : List α) :
    (rankBy cluster items).Perm items :=
  List.mergeSort_perm _ _

end LinkDigest.Ranking
