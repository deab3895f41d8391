import LinkDigest.Text.Blank

/-!
# Trimming

What is left of a text without the blanks around it.
-/

namespace LinkDigest.Text

theorem dropWhile_of_head {p : Char → Bool} {s : List Char}
    (h : ∀ c, s.head? = some c → p c = false) : s.dropWhile p = s := by
  cases s with
  | nil => rfl
  | cons c rest => rw [List.dropWhile_cons, h c rfl]; rfl

/-- Text that neither begins nor ends with what is stripped. -/
theorem strip_eq_self {p : Char → Bool} {s : List Char} (h : ∀ c ∈ s, p c = false) :
    strip p s = s := by
  unfold strip
  rw [dropWhile_of_head fun c hc => h c (List.mem_of_head? hc)]
  exact dropTrailing_eq_self fun c hc => h c (List.mem_of_getLast? hc)

/-- Blanks of markup are blanks. -/
theorem isAsciiBlank_eq_false {c : Char} (h : isBlank c = false) : isAsciiBlank c = false := by
  rw [Bool.eq_false_iff] at h ⊢
  intro hblank
  simp only [isAsciiBlank, Bool.or_eq_true, beq_iff_eq] at hblank
  rcases hblank with (((rfl | rfl) | rfl) | rfl) | rfl <;> exact h rfl

theorem mem_of_mem_trim {text : List Char} {c : Char} (h : c ∈ trim text) : c ∈ text := by
  rw [trim, strip, dropTrailing, List.mem_reverse] at h
  have hback := List.mem_reverse.mp ((List.dropWhile_sublist isBlank).subset h)
  exact (List.dropWhile_sublist isBlank).subset hback

/-- A text that ends in no blank loses none there. -/
theorem trim_append_singleton {c : Char} (hc : isBlank c = false) (text : List Char) :
    trim (text ++ [c]) = text.dropWhile isBlank ++ [c] := by
  have hfront : (text ++ [c]).dropWhile isBlank = text.dropWhile isBlank ++ [c] := by
    rw [List.dropWhile_append]
    split
    · rename_i hempty
      rw [List.isEmpty_iff.mp hempty, List.dropWhile_cons_of_neg (by simp [hc])]
      rfl
    · rfl
  rw [trim, strip, hfront]
  refine dropTrailing_eq_self fun d hd => ?_
  rw [List.getLast?_concat, Option.some.injEq] at hd
  exact hd ▸ hc

theorem length_trim_le (text : List Char) :
    (trim text).length ≤ (text.dropWhile isBlank).length := by
  have hdrop := (List.dropWhile_sublist (l := (text.dropWhile isBlank).reverse) isBlank).length_le
  rw [List.length_reverse] at hdrop
  rwa [trim, strip, dropTrailing, List.length_reverse]

/-- A character at the end that is no blank is seen. -/
theorem trim_append_ne {c : Char} (hc : isBlank c = false) (text more : List Char) :
    trim (text ++ more ++ [c]) ≠ trim text := by
  intro heq
  have hlength := length_trim_le text
  have hdrop : (text.dropWhile isBlank).length ≤ ((text ++ more).dropWhile isBlank).length := by
    rw [List.dropWhile_append]
    split
    · rename_i hempty
      simp [List.isEmpty_iff.mp hempty]
    · simp
  rw [← heq, trim_append_singleton hc, List.length_append, List.length_singleton] at hlength
  omega

end LinkDigest.Text
