import LinkDigest.Proofs.Pattern.Spans
import Mathlib.Data.List.Basic

/-!
# Reading patterns sign by sign

What a reader makes of a run of signs is put together from what it makes of each, and what
the pattern it has read matches from what its parts match.
-/

namespace LinkDigest.Pattern

open Matcher (Place)

/-! ## Steps of a reader -/

/-- Whether a reader comes from one place to another, however much fuel is left there. -/
def Reads (r later : Reader) : Prop :=
  ∃ steps, steps + later.rest.length ≤ r.rest.length ∧
    ∀ fuel, Reader.run? (steps + fuel) r = Reader.run? fuel later

theorem Reads.refl (r : Reader) : Reads r r := ⟨0, by simp, fun fuel => by rw [Nat.zero_add]⟩

theorem Reads.trans {a b c : Reader} (h : Reads a b) (h' : Reads b c) : Reads a c := by
  obtain ⟨steps, hsteps, hrun⟩ := h
  obtain ⟨more, hmore, hrun'⟩ := h'
  refine ⟨steps + more, by omega, fun fuel => ?_⟩
  rw [Nat.add_assoc, hrun, hrun']

/-- One sign where every sign counts. -/
theorem reads_of_step {r later : Reader} {c : Char} {rest : List Char}
    (hverbose : r.flags.verbose = false) (hrest : r.rest = c :: rest)
    (hstep : r.step? c rest = some later) (hlength : later.rest.length ≤ rest.length) :
    Reads r later := by
  refine ⟨1, by rw [hrest, List.length_cons]; omega, fun fuel => ?_⟩
  have hskip : r.flags.skip r.rest = c :: rest := by
    rw [Flags.skip, hverbose, hrest]
    rfl
  rw [Nat.add_comm, Reader.run?, hskip]
  exact congrArg (Option.bind · _) hstep

/-- Having read all of a text a reader is done. -/
theorem Reads.run? {r later : Reader} {fuel : Nat} (h : Reads r later)
    (hrest : later.rest = []) (hfuel : r.rest.length ≤ fuel) : r.run? fuel = some later := by
  obtain ⟨steps, hsteps, hrun⟩ := h
  obtain ⟨more, rfl⟩ := Nat.exists_eq_add_of_le (Nat.le_trans (Nat.le_of_add_right_le hsteps) hfuel)
  rw [hrun]
  cases more with
  | zero => rw [Reader.run?, hrest, List.isEmpty_nil, if_pos rfl]
  | succ more =>
    rw [Reader.run?, hrest]
    have hskip : later.flags.skip [] = [] := by
      rw [Flags.skip]
      split <;> rfl
    rw [hskip]

/-- A character that means nothing else stands for itself. -/
theorem reads_plain {r : Reader} {c : Char} {rest : List Char}
    (hverbose : r.flags.verbose = false) (hmeta : ¬ isMeta c) (hrest : r.rest = c :: rest) :
    Reads r (r.push (.set (r.flags.cases (CharSet.singleton c))) 0 rest) := by
  refine reads_of_step hverbose hrest ?_ (Nat.le_refl _)
  unfold Reader.step?
  split
  all_goals first | exact absurd rfl hmeta | rfl

/-- Behind a backslash a sign with a meaning stands for itself too. -/
theorem reads_escaped {r : Reader} {c : Char} {rest : List Char}
    (hverbose : r.flags.verbose = false) (hmeta : isMeta c) (hrest : r.rest = '\\' :: c :: rest) :
    Reads r (r.push (.set (r.flags.cases (CharSet.singleton c))) 0 rest) := by
  have hescape : escape? r.flags (c :: rest) = some (.literal c, rest) := by
    have hplain : isPlainEscape c := by simp [isPlainEscape, hmeta]
    unfold escape?
    dsimp only
    split
    all_goals first | exact absurd hmeta (by decide) | exact if_pos hplain
  refine reads_of_step hverbose hrest ?_ (by simp [Reader.push])
  show r.escaped? (c :: rest) = _
  rw [Reader.escaped?, hescape]
  rfl

/-! ## What has been read -/

/-- Whether patterns match one behind the other. -/
def SpansAll : List Pattern → Place → Place → Prop
  | [], start, stop => stop = start
  | p :: rest, start, stop => ∃ middle, p.Spans start middle ∧ SpansAll rest middle stop

theorem spans_sequenceAll {patterns : List Pattern} {start stop : Place} :
    (sequenceAll patterns).Spans start stop ↔ SpansAll patterns start stop := by
  induction patterns generalizing start with
  | nil => rfl
  | cons p rest ih =>
    cases rest with
    | nil => simp [sequenceAll, SpansAll]
    | cons next rest =>
      rw [sequenceAll, Spans, SpansAll]
      · simp only [ih]
      · simp

theorem spans_choiceAll {patterns : List Pattern} (hne : patterns ≠ []) {start stop : Place} :
    (choiceAll patterns).Spans start stop ↔ ∃ p ∈ patterns, p.Spans start stop := by
  induction patterns with
  | nil => exact absurd rfl hne
  | cons p rest ih =>
    cases rest with
    | nil => simp [choiceAll]
    | cons next rest =>
      rw [choiceAll, List.exists_mem_cons_iff, ← ih (List.cons_ne_nil next rest)]
      · rfl
      · simp

theorem spans_sequenceOf {items : List Item} {start stop : Place} :
    (sequenceOf items).1.Spans start stop ↔
      SpansAll (items.map fun item => item.toPart.1) start stop := by
  have hmap : items.map (fun item => item.toPart.1) = (items.map Item.toPart).map Prod.fst := by
    rw [List.map_map]
    rfl
  rw [hmap, sequenceOf]
  split
  · rename_i hitems
    rw [hitems]
    rfl
  · rename_i one hitems
    rw [hitems]
    simp [SpansAll]
  · exact spans_sequenceAll

/-- The branches of the innermost group, the last one as far as it has been read. -/
def Reader.alternatives (r : Reader) : List Part := sequenceOf r.items.reverse :: r.branches

theorem Reader.finished_eq (r : Reader) :
    r.finished = match r.alternatives.reverse with
      | [] => (.empty, 0)
      | [one] => one
      | many => (choiceAll (many.map Prod.fst), 1 + (many.map Prod.snd).foldl max 0) := rfl

theorem spans_finished {r : Reader} {start stop : Place} :
    r.finished.1.Spans start stop ↔ ∃ part ∈ r.alternatives, part.1.Spans start stop := by
  have hmem : (∃ part ∈ r.alternatives, part.1.Spans start stop) ↔
      ∃ part ∈ r.alternatives.reverse, part.1.Spans start stop := by
    simp only [List.mem_reverse]
  rw [hmem, r.finished_eq]
  split
  · rename_i hnone
    cases List.reverse_eq_nil_iff.mp hnone
  · rename_i one hone
    rw [hone]
    simp
  · rename_i hne _
    rw [spans_choiceAll (by simpa using hne)]
    simp

/-! ### How deep it is -/

theorem foldl_max_le {depths : List Nat} {first bound : Nat} (hfirst : first ≤ bound)
    (h : ∀ depth ∈ depths, depth ≤ bound) : depths.foldl max first ≤ bound := by
  induction depths generalizing first with
  | nil => exact hfirst
  | cons depth depths ih =>
    obtain ⟨hdepth, hrest⟩ := List.forall_mem_cons.mp h
    exact ih (Nat.max_le.mpr ⟨hfirst, hdepth⟩) hrest

theorem depth_sequenceOf_le {items : List Item} {bound : Nat}
    (h : ∀ item ∈ items, item.toPart.2 ≤ bound) : (sequenceOf items).2 ≤ bound + 1 := by
  have hparts : ∀ part ∈ items.map Item.toPart, part.2 ≤ bound := by
    simpa only [List.forall_mem_map] using h
  rw [sequenceOf]
  split
  · exact Nat.zero_le _
  · rename_i one hone
    rw [hone] at hparts
    exact Nat.le_succ_of_le (hparts one List.mem_cons_self)
  · rw [Nat.add_comm]
    refine Nat.succ_le_succ (foldl_max_le (Nat.zero_le _) ?_)
    simpa only [List.forall_mem_map] using hparts

theorem depth_finished_le {r : Reader} {bound : Nat}
    (h : ∀ part ∈ r.alternatives, part.2 ≤ bound) : r.finished.2 ≤ bound + 1 := by
  have hparts : ∀ part ∈ r.alternatives.reverse, part.2 ≤ bound := by
    simpa only [List.mem_reverse] using h
  rw [r.finished_eq]
  split
  · exact Nat.zero_le _
  · rename_i one hone
    rw [hone] at hparts
    exact Nat.le_succ_of_le (hparts one List.mem_cons_self)
  · rw [Nat.add_comm]
    refine Nat.succ_le_succ (foldl_max_le (Nat.zero_le _) ?_)
    simpa only [List.forall_mem_map] using hparts

end LinkDigest.Pattern
