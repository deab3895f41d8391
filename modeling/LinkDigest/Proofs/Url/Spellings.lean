import LinkDigest.Proofs.Text.Lowercase
import LinkDigest.Proofs.Url.Canonical

/-!
# Spellings of one link

Blanks around a link, the case of its letters and slashes at its end are gone before it is
read. A small letter of ASCII and its capital have one lower-case form and leave the letters
beside them the same, and a slash parts a text in lower case; so what is put to a link this
way is taken from it again, whatever the link is.
-/

namespace LinkDigest.Url

open LinkDigest.Text

/-! ## Blanks around a text -/

/-- No blank stands at either end. -/
structure IsTrimmed (text : List Char) : Prop where
  first : ∀ c, text.head? = some c → isBlank c = false
  last : ∀ c, text.getLast? = some c → isBlank c = false

namespace IsTrimmed

variable {text : List Char}

/-- Blanks are taken away up to a text that has none at its ends. -/
theorem trim_eq (h : IsTrimmed text) {before after : List Char} (hbefore : ∀ c ∈ before, isBlank c)
    (hafter : ∀ c ∈ after, isBlank c) : trim (before ++ text ++ after) = text := by
  unfold trim strip
  rw [List.append_assoc, List.dropWhile_append_of_pos hbefore]
  cases text with
  | nil =>
    rw [List.nil_append, List.dropWhile_eq_nil_iff.mpr hafter]
    rfl
  | cons c rest =>
    have hnone : dropTrailing isBlank after = [] := by
      rw [dropTrailing, List.dropWhile_eq_nil_iff.mpr fun d hd => hafter d (List.mem_reverse.mp hd),
        List.reverse_nil]
    rw [dropWhile_of_head (s := c :: rest ++ after) fun d hd => h.first d hd,
      dropTrailing_append h.last, hnone, List.append_nil]

/-- Slashes at the end are no blanks. -/
theorem append_slashes (h : IsTrimmed text) (count : Nat) :
    IsTrimmed (text ++ List.replicate count '/') where
  first c hc := by
    cases text with
    | nil =>
      rw [List.eq_of_mem_replicate (List.mem_of_head? hc)]
      decide
    | cons d rest => exact h.first c hc
  last c hc := by
    cases count with
    | zero =>
      rw [List.replicate_zero, List.append_nil] at hc
      exact h.last c hc
    | succ count =>
      rw [List.getLast?_append_of_ne_nil _ (by simp)] at hc
      rw [List.eq_of_mem_replicate (List.mem_of_getLast? hc)]
      decide

/-- Nor does the case of a letter make it blank. -/
theorem of_asciiLowercase_eq {other : List Char} (h : IsTrimmed text)
    (hcase : asciiLowercase other = asciiLowercase text) : IsTrimmed other where
  first c hc := by
    have hhead : text.head?.map Char.toLower = some c.toLower := by
      rw [← List.head?_map]
      exact (congrArg List.head? hcase).symm.trans (by rw [asciiLowercase, List.head?_map, hc]; rfl)
    obtain ⟨d, hd, hsame⟩ := Option.map_eq_some_iff.mp hhead
    rw [← isBlank_toLower, ← hsame, isBlank_toLower]
    exact h.first d hd
  last c hc := by
    have hlast : text.getLast?.map Char.toLower = some c.toLower := by
      rw [← List.getLast?_map]
      exact (congrArg List.getLast? hcase).symm.trans
        (by rw [asciiLowercase, List.getLast?_map, hc]; rfl)
    obtain ⟨d, hd, hsame⟩ := Option.map_eq_some_iff.mp hlast
    rw [← isBlank_toLower, ← hsame, isBlank_toLower]
    exact h.last d hd

end IsTrimmed

/-! ## Slashes at the end -/

theorem lowercase_append_slashes (text : List Char) (count : Nat) :
    lowercase (text ++ List.replicate count '/') = lowercase text ++ List.replicate count '/' := by
  cases count with
  | zero => rw [List.replicate_zero, List.append_nil, List.append_nil]
  | succ count =>
    have hslash : ∀ c ∈ List.replicate count '/', c = '/' := fun c => List.eq_of_mem_replicate
    have hself : lowercase (List.replicate count '/') = List.replicate count '/' := by
      rw [lowercase_ascii _ fun c hc => by rw [hslash c hc]; decide]
      exact asciiLowercase_eq_self fun c hc => by rw [hslash c hc]; rfl
    rw [List.replicate_succ, isParting_slash.lowercase_append, hself]

theorem dropSlashes_append_slashes (text : List Char) (count : Nat) :
    dropSlashes (text ++ List.replicate count '/') = dropSlashes text := by
  unfold dropSlashes dropTrailing
  rw [List.reverse_append, List.reverse_replicate, List.dropWhile_append_of_pos]
  intro c hc
  rw [List.eq_of_mem_replicate hc]
  rfl

/-! ## Spellings -/

/-- A link is spelled alike in letters of any case, with slashes at its end, and with blanks
around all that. -/
theorem canonicalLink_spelling {link spelled before after : List Char}
    (hfirst : ∀ c, link.head? = some c → isBlank c = false)
    (hlast : ∀ c, link.getLast? = some c → isBlank c = false)
    (hcase : asciiLowercase spelled = asciiLowercase link) (hbefore : ∀ c ∈ before, isBlank c)
    (hafter : ∀ c ∈ after, isBlank c) (count : Nat) (place : Option (List Char)) :
    canonicalLink? (before ++ (spelled ++ List.replicate count '/') ++ after) place =
      canonicalLink? link place := by
  have hlink : IsTrimmed link := ⟨hfirst, hlast⟩
  have hspelled := (hlink.of_asciiLowercase_eq hcase).append_slashes count
  have hself : trim ([] ++ link ++ []) = link := hlink.trim_eq (by simp) (by simp)
  rw [List.nil_append, List.append_nil] at hself
  have hclean : cleanLink (before ++ (spelled ++ List.replicate count '/') ++ after) =
      cleanLink link := by
    unfold cleanLink
    rw [hspelled.trim_eq hbefore hafter, hself, lowercase_append_slashes,
      dropSlashes_append_slashes, ← lowercase_asciiLowercase spelled, hcase,
      lowercase_asciiLowercase]
  unfold canonicalLink?
  rw [hclean]

/-- How the last sigma is written hangs on the letter before it, and not on the case of that. -/
theorem canonicalLink_spelling_finalSigma :
    asciiLowercase "HTTP://X.test/ΑaΣ".toList = asciiLowercase "http://x.TEST/ΑAΣ".toList ∧
      canonicalLink? (['\t', ' '] ++ ("HTTP://X.test/ΑaΣ".toList ++ List.replicate 2 '/') ++
          ['\u2003']) (some "http://y.test".toList) =
        canonicalLink? "http://x.TEST/ΑAΣ".toList (some "http://y.test".toList) := by
  have hcase : asciiLowercase "HTTP://X.test/ΑaΣ".toList =
      asciiLowercase "http://x.TEST/ΑAΣ".toList := by decide
  refine ⟨hcase, canonicalLink_spelling ?_ ?_ hcase
    (List.forall_iff_forall_mem.mp (by decide)) (List.forall_iff_forall_mem.mp (by decide)) 2 _⟩
  · rintro c hc
    obtain rfl : 'h' = c := Option.some.inj hc
    decide
  · rintro c hc
    obtain rfl : 'Σ' = c := Option.some.inj hc
    decide

end LinkDigest.Url
