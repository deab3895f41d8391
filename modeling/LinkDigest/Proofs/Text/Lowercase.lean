import LinkDigest.Text.Blank
import LinkDigest.Text.Lowercase
import Mathlib.Data.List.Forall2

/-!
# Lower case part by part

The lower-case form of a text is made of a form for each of its characters, and the form of
a part does not depend on what stands beyond a sign that has no case and clings to nothing.
-/

namespace LinkDigest.Text

/-! ## What stands for a character -/

/-- What can stand for a character in lower case: itself, a small letter of ASCII, or a
character beyond ASCII. -/
def MayStandFor (c d : Char) : Prop := d = c ∨ d.isLower ∨ 0x80 ≤ d.toNat

/-- A sign of ASCII that is no small letter stands for nothing but itself. -/
theorem MayStandFor.eq {c d : Char} (h : MayStandFor c d) (hascii : d.toNat < 0x80)
    (hsmall : d.isLower = false) : d = c := by
  rcases h with rfl | hletter | hextended
  · rfl
  · rw [hsmall] at hletter
    cases hletter
  · exact absurd hascii (Nat.not_lt.mpr hextended)

/-- What stands for a character has no code below that of the character and of the letters. -/
theorem MayStandFor.le_toNat {c d : Char} (h : MayStandFor c d) {code : Nat} (hcode : code ≤ 0x61)
    (hc : code ≤ c.toNat) : code ≤ d.toNat := by
  rcases h with rfl | hletter | hextended
  · exact hc
  · have hfirst : 'a' ≤ d := of_decide_eq_true (Bool.and_eq_true_iff.mp hletter).1
    exact Nat.le_trans hcode hfirst
  · omega

/-- The form of a character: not empty, and all in it stands for that character. -/
def IsFormOf (c : Char) (form : List Char) : Prop := form ≠ [] ∧ ∀ d ∈ form, MayStandFor c d

theorem isFormOf_lowerChar (c : Char) : IsFormOf c (lowerChar c) :=
  ⟨lowerChar_ne_nil c, fun _ hd => of_mem_lowerChar hd⟩

/-- A text is written in lower case character by character. -/
theorem exists_lowerAfter_eq_flatten (before s : List Char) :
    ∃ forms, List.Forall₂ IsFormOf s forms ∧ lowerAfter before s = forms.flatten := by
  induction s generalizing before with
  | nil => exact ⟨[], .nil, rfl⟩
  | cons c rest ih =>
    obtain ⟨forms, hforms, hrest⟩ := ih (c :: before)
    unfold lowerAfter
    split
    · refine ⟨[_] :: forms, .cons ⟨List.cons_ne_nil _ _, fun d hd => ?_⟩ hforms,
        by rw [hrest]; rfl⟩
      rw [List.mem_singleton.mp hd]
      exact .inr (.inr (by split <;> decide))
    · exact ⟨lowerChar c :: forms, .cons (isFormOf_lowerChar c) hforms, by rw [hrest]; rfl⟩

theorem exists_lowercase_eq_flatten (s : List Char) :
    ∃ forms, List.Forall₂ IsFormOf s forms ∧ lowercase s = forms.flatten :=
  exists_lowerAfter_eq_flatten [] s

/-- All in lower case stands for something in the text. -/
theorem exists_of_mem_lowercase {s : List Char} {d : Char} (h : d ∈ lowercase s) :
    ∃ c ∈ s, MayStandFor c d := by
  obtain ⟨forms, hforms, hlower⟩ := exists_lowercase_eq_flatten s
  rw [hlower] at h
  clear hlower
  induction hforms with
  | nil => cases h
  | cons hform _ ih =>
    rcases List.mem_append.mp h with h | h
    · exact ⟨_, List.mem_cons_self, hform.2 d h⟩
    · obtain ⟨c, hc, hstands⟩ := ih h
      exact ⟨c, List.mem_cons_of_mem _ hc, hstands⟩

/-- Something in lower case stands for each character of the text. -/
theorem exists_mem_lowercase {s : List Char} {c : Char} (h : c ∈ s) :
    ∃ d ∈ lowercase s, MayStandFor c d := by
  obtain ⟨forms, hforms, hlower⟩ := exists_lowercase_eq_flatten s
  rw [hlower]
  clear hlower
  induction hforms with
  | nil => cases h
  | cons hform _ ih =>
    rcases List.mem_cons.mp h with rfl | h
    · obtain ⟨d, hd⟩ := List.exists_mem_of_ne_nil _ hform.1
      exact ⟨d, List.mem_append_left _ hd, hform.2 d hd⟩
    · obtain ⟨d, hd, hstands⟩ := ih h
      exact ⟨d, List.mem_append_right _ hd, hstands⟩

theorem lowercase_ne_nil {s : List Char} (h : s ≠ []) : lowercase s ≠ [] := by
  obtain ⟨c, hc⟩ := List.exists_mem_of_ne_nil s h
  obtain ⟨d, hd, -⟩ := exists_mem_lowercase hc
  exact List.ne_nil_of_mem hd

/-- What comes first in lower case stands for the first character. -/
theorem exists_lowercase_cons (c : Char) (rest : List Char) :
    ∃ d more, lowercase (c :: rest) = d :: more ∧ MayStandFor c d := by
  obtain ⟨forms, hforms, hlower⟩ := exists_lowercase_eq_flatten (c :: rest)
  cases hforms with
  | cons hform _ =>
    obtain ⟨d, more, rfl⟩ := List.exists_cons_of_ne_nil hform.1
    exact ⟨d, _, hlower, hform.2 d List.mem_cons_self⟩

/-! ## Parts -/

/-- Signs that part a text: they have no case, cling to nothing, and stay as they are. -/
structure IsParting (mark : Char) : Prop where
  loose : isClinging mark = false
  uncased : isCased mark = false
  lower : lowerChar mark = [mark]

theorem isParting_slash : IsParting '/' := ⟨by decide, by decide, by decide⟩

namespace IsParting

variable {mark : Char}

theorem ne_sigma (h : IsParting mark) : (mark == 'Σ') = false := by
  rw [beq_eq_false_iff_ne]
  rintro rfl
  exact absurd h.lower (by decide)

theorem startsCased_append (h : IsParting mark) (s rest : List Char) :
    startsCased (s ++ mark :: rest) = startsCased s := by
  unfold startsCased
  rw [List.dropWhile_append]
  cases hs : s.dropWhile isClinging with
  | nil => simp [h.loose, h.uncased]
  | cons c more => rfl

/-- What stands before a part does not tell in it. -/
theorem lowerAfter_behind (h : IsParting mark) (before front s : List Char) :
    lowerAfter (before ++ mark :: front) s = lowerAfter before s := by
  induction s generalizing before with
  | nil => rfl
  | cons c rest ih =>
    have hrest := ih (c :: before)
    rw [List.cons_append] at hrest
    simp only [lowerAfter, h.startsCased_append, hrest]

theorem lowerAfter_cons (h : IsParting mark) (before rest : List Char) :
    lowerAfter before (mark :: rest) = mark :: lowercase rest := by
  have hrest : lowerAfter (mark :: before) rest = lowercase rest :=
    h.lowerAfter_behind [] before rest
  rw [lowerAfter, if_neg (by simp [h.ne_sigma]), h.lower, hrest]
  rfl

/-- Nor does what stands behind a part. -/
theorem lowerAfter_append (h : IsParting mark) (before s rest : List Char) :
    lowerAfter before (s ++ mark :: rest) = lowerAfter before s ++ mark :: lowercase rest := by
  induction s generalizing before with
  | nil => exact h.lowerAfter_cons before rest
  | cons c more ih =>
    have hmore := ih (c :: before)
    rw [List.cons_append, lowerAfter, lowerAfter, h.startsCased_append, hmore]
    split
    · rfl
    · rw [List.append_assoc]

/-- The parts are written in lower case each by itself. -/
theorem lowercase_append (h : IsParting mark) (s rest : List Char) :
    lowercase (s ++ mark :: rest) = lowercase s ++ mark :: lowercase rest :=
  h.lowerAfter_append [] s rest

end IsParting

/-- A slash in lower case is one in the text. -/
theorem exists_of_lowercase_eq_slash {s more : List Char} (h : lowercase s = '/' :: more) :
    ∃ rest, s = '/' :: rest ∧ more = lowercase rest := by
  cases s with
  | nil => cases h
  | cons c rest =>
    obtain ⟨d, _, hlower, hstands⟩ := exists_lowercase_cons c rest
    obtain rfl : '/' = d := (List.cons.inj (h.symm.trans hlower)).1
    obtain rfl : '/' = c := hstands.eq (by decide) (by decide)
    have hrest := isParting_slash.lowercase_append [] rest
    exact ⟨rest, rfl, (List.cons.inj (h.symm.trans hrest)).2⟩

/-! ## Letters in either case -/

/-- What takes small letters of ASCII for their capitals does so throughout. -/
theorem apply_toLower {α : Type} {f : Char → α}
    (h : ∀ code < 0x80, f (Char.ofNat code).toLower = f (Char.ofNat code)) (c : Char) :
    f c.toLower = f c := by
  by_cases hascii : c.toNat < 0x80
  · rw [← Char.ofNat_toNat c]
    exact h c.toNat hascii
  · have hself : c.toLower = c := by
      unfold Char.toLower
      split
      · rename_i hcapital
        have hlast : c.toNat ≤ 0x5A := hcapital.2
        omega
      · rfl
    rw [hself]

theorem isBlank_toLower : ∀ c : Char, isBlank c.toLower = isBlank c := apply_toLower (by decide)

@[simp] theorem asciiLowercase_append (text more : List Char) :
    asciiLowercase (text ++ more) = asciiLowercase text ++ asciiLowercase more := List.map_append

theorem asciiLowercase_asciiLowercase (text : List Char) :
    asciiLowercase (asciiLowercase text) = asciiLowercase text := by
  have htwice : ∀ c : Char, c.toLower.toLower = c.toLower := apply_toLower (by decide)
  simp [asciiLowercase, htwice]

/-- What does not tell capitals from small letters holds of a text in small letters. -/
theorem forall_asciiLowercase {p : Char → Bool} (hp : ∀ c : Char, p c.toLower = p c) {b : Bool}
    {text : List Char} (h : ∀ c ∈ text, p c = b) : ∀ c ∈ asciiLowercase text, p c = b := by
  intro c hc
  obtain ⟨d, hd, rfl⟩ := List.mem_map.mp hc
  rw [hp, h d hd]

theorem head?_asciiLowercase {p : Char → Bool} (hp : ∀ c : Char, p c.toLower = p c)
    {text : List Char} (h : ∀ c ∈ text.head?, p c) : ∀ c ∈ (asciiLowercase text).head?, p c := by
  intro c hc
  rw [asciiLowercase, List.head?_map] at hc
  obtain ⟨d, hd, rfl⟩ := Option.map_eq_some_iff.mp hc
  rw [hp]
  exact h d hd

theorem startsCased_asciiLowercase (s : List Char) :
    startsCased (asciiLowercase s) = startsCased s := by
  have hclinging : ∀ c, isClinging c.toLower = isClinging c := apply_toLower (by decide)
  have hcased : ∀ c, isCased c.toLower = isCased c := apply_toLower (by decide)
  induction s with
  | nil => rfl
  | cons c rest ih =>
    have hcons : asciiLowercase (c :: rest) = c.toLower :: asciiLowercase rest := rfl
    unfold startsCased at *
    rw [hcons, List.dropWhile_cons, List.dropWhile_cons, hclinging]
    by_cases hc : isClinging c
    · rw [if_pos hc, if_pos hc]
      exact ih
    · rw [if_neg hc, if_neg hc]
      exact hcased c

/-- Neither a letter nor what stands before it tells whether it was a capital of ASCII. -/
theorem lowerAfter_asciiLowercase (before s : List Char) :
    lowerAfter (asciiLowercase before) (asciiLowercase s) = lowerAfter before s := by
  have hsigma : ∀ c : Char, (c.toLower == 'Σ') = (c == 'Σ') :=
    apply_toLower (f := fun c => c == 'Σ') (by decide)
  have hlower : ∀ c, lowerChar c.toLower = lowerChar c := apply_toLower (by decide)
  induction s generalizing before with
  | nil => rfl
  | cons c rest ih =>
    have hrest : lowerAfter (c.toLower :: asciiLowercase before) (asciiLowercase rest) =
        lowerAfter (c :: before) rest := ih (c :: before)
    have hcons : asciiLowercase (c :: rest) = c.toLower :: asciiLowercase rest := rfl
    rw [hcons, lowerAfter, lowerAfter, hsigma, hlower, hrest, startsCased_asciiLowercase,
      startsCased_asciiLowercase]

theorem lowercase_asciiLowercase (s : List Char) : lowercase (asciiLowercase s) = lowercase s :=
  lowerAfter_asciiLowercase [] s

end LinkDigest.Text
