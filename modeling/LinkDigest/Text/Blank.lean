/-!
# Blanks

The white space of Unicode, and text freed of it at both ends.
-/

namespace LinkDigest.Text

/-- White space: the controls from tab to carriage return, next line, and the
spaces and separators of Unicode. -/
def isBlank (c : Char) : Bool :=
  let n := c.toNat
  (9 ≤ n && n ≤ 13) || n == 0x20 || n == 0x85 || n == 0xA0 || n == 0x1680 ||
  (0x2000 ≤ n && n ≤ 0x200A) || n == 0x2028 || n == 0x2029 || n == 0x202F ||
  n == 0x205F || n == 0x3000

/-- White space of ASCII as markup counts it: without the vertical tab. -/
def isAsciiBlank (c : Char) : Bool :=
  c == ' ' || c == '\t' || c == '\n' || c == '\x0c' || c == '\r'

/-- The text without what `p` accepts at its end. -/
def dropTrailing (p : Char → Bool) (s : List Char) : List Char :=
  (s.reverse.dropWhile p).reverse

/-- The text without what `p` accepts at either end. -/
def strip (p : Char → Bool) (s : List Char) : List Char :=
  dropTrailing p (s.dropWhile p)

/-- The text without the blanks around it. -/
def trim (s : List Char) : List Char :=
  strip isBlank s

/-- The string without the blanks around it. -/
def trimString (s : String) : String :=
  String.ofList (trim s.toList)

private theorem dropWhile_eq_self_of_head {p : Char → Bool} :
    ∀ {s : List Char}, (∀ c, s.head? = some c → p c = false) → s.dropWhile p = s
  | [], _ => rfl
  | c :: cs, h => by simp [h c rfl]

private theorem head_dropWhile {p : Char → Bool} :
    ∀ {s : List Char} {c : Char}, (s.dropWhile p).head? = some c → p c = false
  | [], _, h => by simp at h
  | d :: ds, c, h => by
    by_cases hd : p d
    · simp only [List.dropWhile_cons, hd, if_true] at h
      exact head_dropWhile h
    · simp only [List.dropWhile_cons, hd] at h
      simp only [Bool.false_eq_true, if_false, List.head?_cons, Option.some.injEq] at h
      subst h
      simpa using hd

/-- Text that ends in no `p` stays as it is. -/
theorem dropTrailing_eq_self {p : Char → Bool} {s : List Char}
    (h : ∀ c, s.getLast? = some c → p c = false) : dropTrailing p s = s := by
  simp only [dropTrailing]
  rw [dropWhile_eq_self_of_head (by simpa using h), List.reverse_reverse]

/-- What is left does not end in a `p`. -/
theorem getLast_dropTrailing {p : Char → Bool} {s : List Char} {c : Char}
    (h : (dropTrailing p s).getLast? = some c) : p c = false := by
  simp only [dropTrailing, List.getLast?_reverse] at h
  exact head_dropWhile h

/-- Nothing is dropped from a text by what stands behind it. -/
theorem dropTrailing_append {p : Char → Bool} {s : List Char}
    (h : ∀ c, s.getLast? = some c → p c = false) (more : List Char) :
    dropTrailing p (s ++ more) = s ++ dropTrailing p more := by
  have hself : s.reverse.dropWhile p = s.reverse :=
    dropWhile_eq_self_of_head (by simpa using h)
  unfold dropTrailing
  rw [List.reverse_append, List.dropWhile_append]
  split
  · rename_i hempty
    rw [hself, List.isEmpty_iff.mp hempty]
    simp
  · simp

/-- What stands behind a text is freed at its end only. -/
theorem strip_append {p : Char → Bool} {s : List Char} (hne : s ≠ []) (h : ∀ c ∈ s, p c = false)
    (more : List Char) : strip p (s ++ more) = s ++ dropTrailing p more := by
  have hhead : (s ++ more).dropWhile p = s ++ more := by
    obtain ⟨c, rest, rfl⟩ := List.exists_cons_of_ne_nil hne
    exact dropWhile_eq_self_of_head fun d hd => h d (by simp at hd; simp [hd])
  unfold strip
  rw [hhead, dropTrailing_append fun c hc => h c (List.mem_of_getLast? hc)]

end LinkDigest.Text
