import LinkDigest.Pattern.CharSet
import LinkDigest.Proofs.Text.Fold
import Mathlib.Data.List.Basic

/-!
# Members of sets of characters

What the operations on ranges mean for the characters: joining ranges changes no members, and
a character whose cases are added to it stands for all characters that fold as it does.
-/

namespace LinkDigest

open LinkDigest.Text

namespace CharSet

/-! ## Ranges -/

theorem hasCode_joinFrom (code : Nat) (current : CodeRange) (rest : List CodeRange)
    (hfirst : ∀ r ∈ rest, current.first ≤ r.first)
    (hsorted : rest.Pairwise fun a b => a.first ≤ b.first) :
    (∃ r ∈ joinFrom current rest, r.contains code) ↔
      current.contains code ∨ ∃ r ∈ rest, r.contains code := by
  induction rest generalizing current with
  | nil => simp [joinFrom]
  | cons r rest ih =>
    obtain ⟨hnext, hrest⟩ := List.pairwise_cons.mp hsorted
    have hle : current.first ≤ r.first := hfirst r List.mem_cons_self
    rw [joinFrom]
    split
    · rename_i htouch
      have hkept : ∀ other ∈ rest, current.first ≤ other.first :=
        fun other hother => hfirst other (List.mem_cons_of_mem _ hother)
      rw [List.exists_mem_cons_iff, ← or_assoc]
      refine (ih ⟨current.first, max current.last r.last⟩ hkept hrest).trans (or_congr_left ?_)
      simp only [CodeRange.contains, Bool.and_eq_true, decide_eq_true_eq]
      omega
    · rw [List.exists_mem_cons_iff, List.exists_mem_cons_iff, ih r hnext hrest]

theorem hasCode_ofRanges (ranges : List CodeRange) (code : Nat) :
    (ofRanges ranges).hasCode code ↔ ∃ r ∈ ranges, r.contains code := by
  have hperm := ranges.mergeSort_perm fun a b => a.first ≤ b.first
  have hsorted : (ranges.mergeSort fun a b => a.first ≤ b.first).Pairwise
      fun a b => a.first ≤ b.first := by
    refine (ranges.pairwise_mergeSort ?_ ?_).imp of_decide_eq_true
    · simp only [decide_eq_true_eq]
      exact fun _ _ _ => Nat.le_trans
    · simp only [Bool.or_eq_true, decide_eq_true_eq]
      exact fun a b => Nat.le_total a.first b.first
  rw [hasCode, List.any_eq_true, ofRanges]
  have hmem : (∃ r ∈ ranges, r.contains code) ↔
      ∃ r ∈ ranges.mergeSort fun a b => a.first ≤ b.first, r.contains code := by
    simp only [hperm.mem_iff]
  rw [hmem]
  cases hranges : ranges.mergeSort fun a b => a.first ≤ b.first with
  | nil => rfl
  | cons r rest =>
    rw [hranges] at hsorted
    obtain ⟨hfirst, hrest⟩ := List.pairwise_cons.mp hsorted
    rw [List.exists_mem_cons_iff]
    exact hasCode_joinFrom code r rest hfirst hrest

theorem hasCode_toNat (s : CharSet) (c : Char) : s.hasCode c.toNat = s.contains c := rfl

/-- Every character but the line feed. -/
theorem contains_noLineFeed (c : Char) : noLineFeed.contains c ↔ c ≠ '\n' := by
  have hranges : noLineFeed.ranges = [⟨0, 9⟩, ⟨11, maxCode⟩] := rfl
  have hmax : c.toNat ≤ maxCode := by
    have hvalid : c.toNat.isValidChar := c.valid
    unfold Nat.isValidChar at hvalid
    unfold maxCode
    omega
  have hcode : c = '\n' ↔ c.toNat = 10 := Char.toNat_inj.symm
  rw [contains, inRanges, hranges, ne_eq, hcode]
  simp [CodeRange.contains]
  omega

/-! ## Cases -/

theorem hasCode_singleton (a : Char) (code : Nat) :
    (singleton a).hasCode code ↔ code = a.toNat := by
  simp only [singleton, hasCode, CodeRange.contains, List.any_cons, List.any_nil, Bool.or_false,
    Bool.and_eq_true, decide_eq_true_eq]
  omega

/-- What is added for a character is what it folds to, if the table has one of the two. -/
theorem mem_foldTargets_singleton {a : Char} {code : Nat} :
    code ∈ (singleton a).foldTargets ↔
      (a.toNat, code) ∈ foldPairs ∨ code = a.toNat ∧ ∃ other, (other, code) ∈ foldPairs := by
  simp only [foldTargets, List.mem_map, List.mem_filter, Bool.or_eq_true, hasCode_singleton]
  constructor
  · rintro ⟨⟨other, folded⟩, ⟨hpair, hcode⟩, rfl⟩
    rcases hcode with rfl | rfl
    · exact .inl hpair
    · exact .inr ⟨rfl, other, hpair⟩
  · rintro (hpair | ⟨rfl, other, hpair⟩)
    · exact ⟨_, ⟨hpair, .inl rfl⟩, rfl⟩
    · exact ⟨_, ⟨hpair, .inr rfl⟩, rfl⟩

theorem foldCode_of_mem_foldTargets {a : Char} {code : Nat}
    (h : code ∈ (singleton a).foldTargets) : foldCode a.toNat = code ∧ foldCode code = code := by
  rcases mem_foldTargets_singleton.mp h with hpair | ⟨rfl, other, hpair⟩
  · exact foldCode_of_mem hpair
  · exact ⟨(foldCode_of_mem hpair).2, (foldCode_of_mem hpair).2⟩

theorem hasCode_withCases (s : CharSet) (code : Nat) :
    s.withCases.hasCode code ↔ s.hasCode code ∨ code ∈ s.foldTargets ∨
      ∃ folded ∈ s.foldTargets, (code, folded) ∈ foldPairs := by
  have hsingle : ∀ other, CodeRange.contains ⟨other, other⟩ code ↔ other = code := by
    intro other
    simp only [CodeRange.contains, Bool.and_eq_true, decide_eq_true_eq]
    omega
  rw [withCases, hasCode_ofRanges]
  simp only [List.mem_append, or_and_right, exists_or, List.mem_map, exists_exists_and_eq_and,
    hsingle, List.mem_eraseDups, List.mem_filter, List.contains_iff_mem, exists_eq_right, or_assoc]
  refine or_congr (by rw [hasCode, List.any_eq_true]) (or_congr Iff.rfl ?_)
  constructor
  · rintro ⟨⟨other, folded⟩, ⟨hpair, hfolded⟩, rfl⟩
    exact ⟨folded, hfolded, hpair⟩
  · rintro ⟨folded, hfolded, hpair⟩
    exact ⟨(code, folded), ⟨hpair, hfolded⟩, rfl⟩

/-- A character with its cases stands for all that fold as it does. -/
theorem contains_withCases_singleton (a c : Char) :
    (singleton a).withCases.contains c ↔ sameFold a c := by
  rw [← hasCode_toNat, hasCode_withCases, hasCode_singleton, sameFold, beq_iff_eq]
  constructor
  · rintro (heq | htarget | ⟨folded, htarget, hpair⟩)
    · rw [heq]
    · obtain ⟨hfold, hfixed⟩ := foldCode_of_mem_foldTargets htarget
      rw [hfold, hfixed]
    · rw [(foldCode_of_mem_foldTargets htarget).1, (foldCode_of_mem hpair).1]
  · intro hsame
    rcases foldCode_eq_self_or_mem c.toNat with hc | hc
    · rcases foldCode_eq_self_or_mem a.toNat with ha | ha
      · exact .inl (by rw [← hc, ← hsame, ha])
      · rw [hsame, hc] at ha
        exact .inr (.inl (mem_foldTargets_singleton.mpr (.inl ha)))
    · refine .inr (.inr ⟨foldCode c.toNat, mem_foldTargets_singleton.mpr ?_, hc⟩)
      rcases foldCode_eq_self_or_mem a.toNat with ha | ha
      · exact .inr ⟨hsame.symm.trans ha, c.toNat, hc⟩
      · exact .inl (hsame ▸ ha)

end CharSet

end LinkDigest
