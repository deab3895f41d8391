/-!
# Figures

How a natural number is written: in figures, at least one of them, without leading zeros, and
their value is the number.
-/

namespace LinkDigest.Text

theorem ne_of_isDigit {c d : Char} (hc : c.isDigit) (hd : d.isDigit = false) : c ≠ d := by
  rintro rfl
  rw [hc] at hd
  cases hd

@[simp] theorem toList_toString (n : Nat) : (toString n).toList = Nat.toDigits 10 n :=
  Nat.toList_repr

theorem isDigit_of_mem_toString {n : Nat} {c : Char} (h : c ∈ (toString n).toList) :
    c.isDigit := by
  rw [toList_toString] at h
  exact Nat.isDigit_of_mem_toDigits (by decide) (by decide) h

theorem toString_ne_nil (n : Nat) : (toString n).toList ≠ [] := by
  rw [toList_toString]
  exact Nat.toDigits_ne_nil

theorem foldl_toString (n : Nat) :
    (toString n).toList.foldl (fun n c => n * 10 + (c.toNat - 48)) 0 = n := by
  have hdigits := Nat.ofDigitChars_toDigits (b := 10) (n := n) (by decide) (by decide)
  rw [Nat.ofDigitChars_eq_foldl] at hdigits
  rw [toList_toString]
  refine Eq.trans ?_ hdigits
  congr 1
  funext m c
  rw [Nat.mul_comm]
  rfl

/-- No figures follow a leading zero. -/
theorem eq_nil_of_toString {n : Nat} {rest : List Char} (h : (toString n).toList = '0' :: rest) :
    rest = [] := by
  induction n using Nat.strongRecOn generalizing rest with
  | ind n ih =>
    rw [toList_toString] at h
    by_cases hsmall : n < 10
    · rw [Nat.toDigits_of_lt_base hsmall] at h
      exact (List.cons.inj h).2.symm
    · -- of a larger number the figures before the last are those of its tenth, which is not zero
      rw [Nat.toDigits_of_base_le (by decide) (Nat.le_of_not_lt hsmall), ← toList_toString] at h
      obtain ⟨more, hmore, -⟩ := List.append_eq_cons_iff.mp h |>.resolve_left
        fun hnil => toString_ne_nil _ hnil.1
      have htenth := foldl_toString (n / 10)
      rw [hmore, ih (n / 10) (by omega) hmore] at htenth
      have hzero : n / 10 = 0 := htenth.symm
      omega

end LinkDigest.Text
