import LinkDigest.Scan
import Mathlib.Data.List.Range

/-!
# What a scan reports on the way

A scan reports the share of the feeds that are behind it, at the outset and after each feed,
whether it was scanned or passed over. The reports go up from none to all, and all is reported
once, at the end.
-/

namespace LinkDigest.Scan

/-! ## Shares -/

theorem percent_le (done total : Nat) : percent done total ≤ 100 := by
  unfold percent
  split
  · exact Nat.le_refl _
  · exact Nat.min_le_left ..

theorem percent_mono {a b : Nat} (total : Nat) (h : a ≤ b) : percent a total ≤ percent b total := by
  have hdiv : a * 100 / total ≤ b * 100 / total :=
    Nat.div_le_div_right (Nat.mul_le_mul_right 100 h)
  unfold percent
  split
  · exact Nat.le_refl _
  · exact Nat.le_min.mpr ⟨Nat.min_le_left .., (Nat.min_le_right ..).trans hdiv⟩

/-- All is done only with the last of the feeds. -/
theorem percent_lt {done total : Nat} (h : done < total) : percent done total < 100 := by
  have hdiv : done * 100 / total < 100 := Nat.div_lt_of_lt_mul (by omega)
  rw [percent, if_neg (by omega)]
  exact (Nat.min_le_right ..).trans_lt hdiv

theorem percent_self (total : Nat) : percent total total = 100 := by
  unfold percent
  split
  · rfl
  · rename_i hpos
    rw [Nat.mul_div_cancel_left 100 (Nat.pos_of_ne_zero hpos), Nat.min_self]

/-! ## Reports -/

/-- Shares that go up from none to all, one for each feed behind the first. -/
structure RunsUp (feeds : Nat) (reports : List Nat) : Prop where
  head : reports.head? = some 0
  sorted : reports.Pairwise (· ≤ ·)
  le_hundred : ∀ share ∈ reports, share ≤ 100
  length : reports.length = if feeds = 0 then 2 else feeds + 1
  /-- The last report is that all is done, and no other is. -/
  hundred : ∃ before, reports = before ++ [100] ∧ 100 ∉ before

theorem runsUp_progress (feeds : Nat) : RunsUp feeds (progress feeds) := by
  cases feeds with
  | zero => exact ⟨rfl, by decide, by decide, rfl, [0], rfl, by decide⟩
  | succ n =>
    have hprogress : progress (n + 1) =
        0 :: (List.range (n + 1)).map fun done => percent (done + 1) (n + 1) := rfl
    refine ⟨rfl, ?_, ?_, ?_, ?_⟩
    · rw [hprogress, List.pairwise_cons, List.pairwise_map]
      refine ⟨fun share _ => Nat.zero_le share, List.pairwise_lt_range.imp fun h => ?_⟩
      exact percent_mono (n + 1) (Nat.succ_le_succ (Nat.le_of_lt h))
    · intro share hshare
      rw [hprogress] at hshare
      rcases List.mem_cons.mp hshare with rfl | hshare
      · exact Nat.zero_le 100
      · obtain ⟨done, -, rfl⟩ := List.mem_map.mp hshare
        exact percent_le ..
    · rw [hprogress, List.length_cons, List.length_map, List.length_range, if_neg (by omega)]
    · refine ⟨0 :: (List.range n).map fun done => percent (done + 1) (n + 1), ?_, ?_⟩
      · rw [hprogress, List.range_succ, List.map_append, List.map_singleton, percent_self,
          List.cons_append]
      · intro hmem
        rcases List.mem_cons.mp hmem with hzero | hmem
        · cases hzero
        · obtain ⟨done, hdone, hall⟩ := List.mem_map.mp hmem
          have hlt := percent_lt (Nat.succ_lt_succ (List.mem_range.mp hdone))
          exact Nat.lt_irrefl 100 (hall ▸ hlt)

/-! ## The way -/

/-- Feeds passed one after the other are all visited, and a share is reported for each. -/
theorem foldl_pass (corpus : Corpus) (cutoff : Instant) (feeds : List Feed) (walk : Walk) :
    feeds.foldl (Walk.pass corpus cutoff) walk =
      { tally := feeds.foldl (visitFeed corpus cutoff) walk.tally
        done := walk.done + feeds.length
        reports := walk.reports ++ (List.range feeds.length).map fun passed =>
          percent (walk.done + passed + 1) corpus.feeds.length } := by
  induction feeds generalizing walk with
  | nil => simp
  | cons feed rest ih =>
    rw [List.foldl_cons, ih, List.length_cons, List.range_succ_eq_map, List.map_cons,
      List.map_map]
    simp only [Walk.pass, List.foldl_cons, List.append_assoc, List.singleton_append,
      Nat.add_zero, Walk.mk.injEq, true_and, List.append_cancel_left_eq, List.cons.injEq]
    refine ⟨by omega, List.map_congr_left fun passed _ => ?_⟩
    show _ = percent (walk.done + (passed + 1) + 1) _
    congr 1
    omega

/-- A walk counts what the scan counts. -/
theorem tally_walk (corpus : Corpus) (cutoff : Instant) :
    (walk corpus cutoff).tally = tally corpus cutoff := by
  unfold walk tally
  rw [foldl_pass]
  split <;> rfl

/-- What is reported depends on the number of feeds alone. -/
theorem reports_walk (corpus : Corpus) (cutoff : Instant) :
    (walk corpus cutoff).reports = progress corpus.feeds.length := by
  unfold walk progress
  rw [foldl_pass]
  by_cases hnone : corpus.feeds = []
  · simp [hnone]
  · simp [hnone]

/-- A scan is a walk through the corpus, and what it reports on the way goes up from none to
all, whatever the feeds are. -/
theorem walk_runsUp (corpus : Corpus) (cutoff : Instant) :
    (walk corpus cutoff).tally = tally corpus cutoff ∧
    (walk corpus cutoff).reports = progress corpus.feeds.length ∧
    RunsUp corpus.feeds.length (walk corpus cutoff).reports := by
  refine ⟨tally_walk corpus cutoff, reports_walk corpus cutoff, ?_⟩
  rw [reports_walk]
  exact runsUp_progress corpus.feeds.length

end LinkDigest.Scan
