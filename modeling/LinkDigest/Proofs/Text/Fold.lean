import LinkDigest.Text.Fold

/-!
# Folding case

The table of what code points fold to says it of all that do not fold to themselves, and what
is folded once does not change any more.
-/

namespace LinkDigest.Text

namespace CaseRun

variable {run other : CaseRun} {runs : List CaseRun} {code folded : Nat}

/-! ## One run -/

theorem moves_iff : run.moves code ↔
    run.first ≤ code ∧ code ≤ run.last ∧ (code - run.first) % run.stride = 0 := by
  simp only [moves, Bool.and_eq_true, decide_eq_true_eq, beq_iff_eq, and_assoc]

/-- A run stands for the code points it moves, with what they become. -/
theorem mem_pairs_iff (hrange : run.first ≤ run.last) :
    (code, folded) ∈ run.pairs ↔ run.moves code ∧ folded = (code + run.shift).toNat := by
  rw [pairs, List.mem_map, moves_iff]
  constructor
  · rintro ⟨i, hi, heq⟩
    obtain ⟨rfl, rfl⟩ := Prod.mk.inj heq
    have hsteps : i * run.stride ≤ run.last - run.first :=
      Nat.le_trans (Nat.mul_le_mul_right _ (Nat.le_of_lt_succ (List.mem_range.mp hi)))
        (Nat.div_mul_le_self ..)
    refine ⟨⟨by omega, by omega, ?_⟩, rfl⟩
    rw [Nat.add_sub_cancel_left]
    exact Nat.mul_mod_left i run.stride
  · rintro ⟨⟨hfirst, hlast, hstride⟩, rfl⟩
    have hcode : run.first + (code - run.first) / run.stride * run.stride = code := by
      rw [Nat.div_mul_cancel (Nat.dvd_of_mod_eq_zero hstride)]
      omega
    refine ⟨(code - run.first) / run.stride, List.mem_range.mpr ?_, by simp only [hcode]⟩
    exact Nat.lt_succ_of_le (Nat.div_le_div_right (Nat.sub_le_sub_right hlast run.first))

/-- What a run makes of its code points another one does not move, if it misses them. -/
theorem moves_eq_false_of_misses (hpos : 0 ≤ run.first + run.shift) (hmisses : run.misses other)
    (hmoves : run.moves code) : other.moves (code + run.shift).toNat = false := by
  obtain ⟨hfirst, hlast, hstride⟩ := moves_iff.mp hmoves
  rw [Bool.eq_false_iff]
  intro hmoved
  obtain ⟨hotherFirst, hotherLast, hotherStride⟩ := moves_iff.mp hmoved
  simp only [misses, Bool.or_eq_true, Bool.and_eq_true, decide_eq_true_eq, beq_iff_eq] at hmisses
  rcases hmisses with ((hbefore | hbehind) | ⟨⟨htwo, hotherTwo⟩, hodd⟩) | ⟨hsingle, hmissed⟩
  · omega
  · omega
  · -- Both runs go by steps of two, and one over even code points, the other over odd ones.
    rw [htwo] at hstride
    rw [hotherTwo] at hotherStride
    omega
  · have hcode : code = run.first := by omega
    rw [hcode] at hmoved
    simp [hmoved] at hmissed

/-! ## Many runs -/

theorem range_of_areOrdered (h : areOrdered runs) (hrun : run ∈ runs) : run.first ≤ run.last := by
  fun_induction areOrdered runs with
  | case1 => cases hrun
  | case2 only =>
    rw [List.mem_singleton.mp hrun]
    simpa using h
  | case3 first next rest ih =>
    simp only [Bool.and_eq_true, decide_eq_true_eq] at h
    rcases List.mem_cons.mp hrun with rfl | hrest
    · exact h.1.1
    · exact ih h.2 hrest

theorem lt_of_areOrdered (h : areOrdered (run :: runs)) (hother : other ∈ runs) :
    run.last < other.first := by
  induction runs generalizing run with
  | nil => cases hother
  | cons next rest ih =>
    simp only [areOrdered, Bool.and_eq_true, decide_eq_true_eq] at h
    obtain ⟨⟨-, hnext⟩, hrest⟩ := h
    rcases List.mem_cons.mp hother with rfl | hother
    · exact hnext
    · have hrange := range_of_areOrdered hrest List.mem_cons_self
      have hlt := ih hrest hother
      omega

/-- Of runs in order no two move the same code point. -/
theorem find?_eq_of_moves (h : areOrdered runs) (hrun : run ∈ runs) (hmoves : run.moves code) :
    (runs.find? fun run => run.moves code) = some run := by
  induction runs with
  | nil => cases hrun
  | cons first rest ih =>
    rcases List.mem_cons.mp hrun with rfl | hrest
    · exact List.find?_cons_of_pos hmoves
    · have hordered : areOrdered rest := by
        cases rest with
        | nil => rfl
        | cons next more => simp_all [areOrdered]
      have hlt := lt_of_areOrdered h hrest
      have hne : ¬ first.moves code := fun hfirst => by
        have hbound := moves_iff.mp hfirst
        have hcode := moves_iff.mp hmoves
        omega
      rw [List.find?_cons_of_neg (p := fun run : CaseRun => run.moves code) hne]
      exact ih hordered hrest

theorem apply_eq_self_or_mem (h : areOrdered runs) (code : Nat) :
    apply runs code = code ∨ (code, apply runs code) ∈ runs.flatMap pairs := by
  unfold apply
  cases hfind : runs.find? fun run => run.moves code with
  | none => exact .inl rfl
  | some run =>
    have hrun := List.mem_of_find?_eq_some hfind
    refine .inr (List.mem_flatMap.mpr ⟨run, hrun, ?_⟩)
    have hmoves := List.find?_some (p := fun run : CaseRun => run.moves code) hfind
    exact (mem_pairs_iff (range_of_areOrdered h hrun)).mpr ⟨hmoves, rfl⟩

theorem apply_of_mem (h : areApart runs) (hpair : (code, folded) ∈ runs.flatMap pairs) :
    apply runs code = folded ∧ apply runs folded = folded := by
  simp only [areApart, Bool.and_eq_true, List.all_eq_true, decide_eq_true_eq] at h
  obtain ⟨hordered, hapart⟩ := h
  obtain ⟨run, hrun, hmem⟩ := List.mem_flatMap.mp hpair
  obtain ⟨hmoves, rfl⟩ := (mem_pairs_iff (range_of_areOrdered hordered hrun)).mp hmem
  obtain ⟨hpos, hmisses⟩ := hapart run hrun
  constructor
  · rw [apply, find?_eq_of_moves hordered hrun hmoves]
  · have hnone : (runs.find? fun other => other.moves (code + run.shift).toNat) = none := by
      refine List.find?_eq_none.mpr fun other hother => ?_
      rw [moves_eq_false_of_misses hpos (hmisses other hother) hmoves]
      exact Bool.false_ne_true
    rw [apply, hnone]

end CaseRun

/-! ## Code points -/

/-- A code point folds to itself, or the table says what it folds to. -/
theorem foldCode_eq_self_or_mem (code : Nat) :
    foldCode code = code ∨ (code, foldCode code) ∈ foldPairs := by
  obtain ⟨runs, hapart, hfold, hpairs⟩ := exists_foldRuns
  have hordered : CaseRun.areOrdered runs := (Bool.and_eq_true_iff.mp hapart).1
  rw [hfold, hpairs]
  exact CaseRun.apply_eq_self_or_mem hordered code

/-- The table says what code points fold to, and these fold to themselves. -/
theorem foldCode_of_mem {code folded : Nat} (h : (code, folded) ∈ foldPairs) :
    foldCode code = folded ∧ foldCode folded = folded := by
  obtain ⟨runs, hapart, hfold, hpairs⟩ := exists_foldRuns
  rw [hpairs] at h
  rw [hfold, hfold]
  exact CaseRun.apply_of_mem hapart h

end LinkDigest.Text
