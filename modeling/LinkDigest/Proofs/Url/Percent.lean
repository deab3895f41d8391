import LinkDigest.Text.Lowercase
import LinkDigest.Url.Percent
import Mathlib

/-!
# What escaping leaves

What has been escaped has nothing left to escape: it is ASCII without controls, and escaping
it again or making its capitals small changes nothing about that.
-/

namespace LinkDigest

/-- What is so for every code point of ASCII is so for every character of ASCII. -/
theorem forall_ascii {P : Char → Prop} (h : ∀ code < 0x80, P (Char.ofNat code)) {c : Char}
    (hc : c.toNat < 0x80) : P c := by
  rw [← Char.ofNat_toNat c]
  exact h c.toNat hc

/-- What changes when made small is a small letter then. -/
theorem toLower_eq_or_isLower (c : Char) : c.toLower = c ∨ c.toLower.isLower := by
  by_cases hcapital : c.isUpper
  · right
    rw [Char.isLower_toLower_eq_isAlpha, Char.isAlpha, hcapital, Bool.true_or]
  · exact .inl (Char.toLower_eq_of_not_isUpper hcapital)

theorem isAlphanum_of_isLower {c : Char} (h : c.isLower) : c.isAlphanum := by
  simp [Char.isAlphanum, Char.isAlpha, h]

namespace Url

/-- Characters of ASCII that can be seen. -/
def IsVisible (c : Char) : Prop := 0x20 < c.toNat ∧ c.toNat < 0x7F

instance : DecidablePred IsVisible :=
  fun c => inferInstanceAs (Decidable (0x20 < c.toNat ∧ c.toNat < 0x7F))

theorem IsVisible.lt {c : Char} (h : IsVisible c) : c.toNat < 0x80 := Nat.lt_trans h.2 (by decide)

namespace Percent

/-- Characters that are escaped nowhere: letters, figures, the dot, and the sign of escapes. -/
def IsPlain (c : Char) : Prop := c.isAlphanum ∨ c = '.' ∨ c = '%'

theorem IsPlain.lt {c : Char} (h : IsPlain c) : c.toNat < 0x80 := by
  rcases h with hc | rfl | rfl
  · simp only [Char.isAlphanum, Char.isAlpha, Char.isUpper, Char.isLower, Char.isDigit,
      Bool.or_eq_true, Bool.and_eq_true, decide_eq_true_eq, UInt32.le_iff_toNat_le] at hc
    have hcode : c.toNat = c.val.toNat := rfl
    have hcodes : 'Z'.val.toNat = 90 ∧ 'z'.val.toNat = 122 ∧ '9'.val.toNat = 57 := by decide
    omega
  · decide
  · decide

theorem IsPlain.of_ascii {P : Char → Prop}
    (h : ∀ code < 0x80, (Char.ofNat code).isAlphanum ∨ Char.ofNat code = '.' ∨
      Char.ofNat code = '%' → P (Char.ofNat code)) {c : Char} (hc : IsPlain c) : P c :=
  forall_ascii (P := fun c => IsPlain c → P c) h hc.lt hc

/-- Sets that have all that is not visible in ASCII and nothing that is escaped nowhere. -/
structure IsEscaped (p : Char → Bool) : Prop where
  hidden : ∀ c, c.toNat ≤ 0x20 ∨ 0x7F ≤ c.toNat → p c
  plain : ∀ c, IsPlain c → p c = false

theorem IsEscaped.of_ascii {p : Char → Bool} (hcontrols : ∀ c, controls c → p c) (hblank : p ' ')
    (hplain : ∀ code < 0x80, (Char.ofNat code).isAlphanum ∨ Char.ofNat code = '.' ∨
      Char.ofNat code = '%' → p (Char.ofNat code) = false) : IsEscaped p where
  hidden c hc := by
    by_cases hcode : c.toNat = 0x20
    · rw [← Char.ofNat_toNat c, hcode]
      exact hblank
    · refine hcontrols c ?_
      simp only [controls, Bool.or_eq_true, decide_eq_true_eq]
      omega
  plain c hc := hc.of_ascii (P := fun c => p c = false) hplain

theorem isEscaped_fragmentSet : IsEscaped fragmentSet :=
  .of_ascii (fun c h => by simp [fragmentSet, h]) (by decide) (by decide)

theorem isEscaped_pathSet : IsEscaped pathSet :=
  .of_ascii (fun c h => by simp [pathSet, fragmentSet, h]) (by decide) (by decide)

theorem isEscaped_userinfoSet : IsEscaped userinfoSet :=
  .of_ascii (fun c h => by simp [userinfoSet, pathSet, fragmentSet, h]) (by decide) (by decide)

theorem isEscaped_specialQuerySet : IsEscaped specialQuerySet :=
  .of_ascii (fun c h => by simp [specialQuerySet, querySet, h]) (by decide) (by decide)

namespace IsEscaped

variable {p : Char → Bool} {c : Char} {s : List Char}

/-- What is not escaped can be seen. -/
theorem visible (h : IsEscaped p) (hc : p c = false) : IsVisible c := by
  unfold IsVisible
  refine Decidable.byContradiction fun hhidden => ?_
  rw [h.hidden c (by omega)] at hc
  cases hc

/-- A capital is escaped as its small letter is. -/
theorem toLower (h : IsEscaped p) (hc : p c = false) : p c.toLower = false := by
  rcases toLower_eq_or_isLower c with hsame | hsmall
  · rwa [hsame]
  · exact h.plain _ (.inl (isAlphanum_of_isLower hsmall))

theorem asciiLowercase (h : IsEscaped p) (hs : ∀ c ∈ s, p c = false) :
    ∀ c ∈ Text.asciiLowercase s, p c = false := by
  intro c hc
  obtain ⟨d, hd, rfl⟩ := List.mem_map.mp hc
  exact h.toLower (hs d hd)

end IsEscaped

theorem encode_cons (p : Char → Bool) (c : Char) (s : List Char) :
    encode p (c :: s) = encodeChar p c ++ encode p s := List.flatMap_cons

theorem isAlphanum_upperDigit : ∀ n < 16, (Hex.upperDigit n).isAlphanum := by decide

theorem isPlain_of_mem_escapeByte {byte : UInt8} {c : Char} (h : c ∈ escapeByte byte) :
    IsPlain c := by
  have hbyte := byte.toNat_lt
  rcases List.mem_cons.mp h with rfl | h
  · exact .inr (.inr rfl)
  rcases List.mem_cons.mp h with rfl | h
  · exact .inl (isAlphanum_upperDigit _ (by omega))
  · rw [List.mem_singleton.mp h]
    exact .inl (isAlphanum_upperDigit _ (by omega))

/-- What is written is part of an escape, or a character of the text that is kept. -/
theorem isPlain_or_of_mem_encode {p : Char → Bool} {s : List Char} {c : Char}
    (h : c ∈ encode p s) : IsPlain c ∨ c ∈ s ∧ p c = false := by
  obtain ⟨d, hmem, hd⟩ := List.mem_flatMap.mp h
  unfold encodeChar at hd
  split at hd
  · obtain ⟨byte, -, hbyte⟩ := List.mem_flatMap.mp hd
    exact .inl (isPlain_of_mem_escapeByte hbyte)
  · rename_i hfree
    rw [List.mem_singleton.mp hd]
    exact .inr ⟨hmem, by simpa using hfree⟩

/-- Nothing is left to escape. -/
theorem of_mem_encode {p : Char → Bool} (hp : IsEscaped p) {s : List Char} {c : Char}
    (h : c ∈ encode p s) : p c = false :=
  (isPlain_or_of_mem_encode h).elim (hp.plain c) And.right

end Percent

end Url

end LinkDigest
