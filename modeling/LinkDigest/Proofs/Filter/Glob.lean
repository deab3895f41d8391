import LinkDigest.Filter.Settings
import LinkDigest.Proofs.Text.Pieces
import Mathlib.Data.List.Forall2

/-!
# Keywords as globs

What a keyword means is said here without cutting it at its stars and without searching: a
star stands for any run of characters, and every other character for itself in either case.
A link without a line feed holds a keyword just when the keyword stands for a part of it.
-/

namespace LinkDigest

open LinkDigest.Text

/-- Whether a keyword stands for a text: a star for any run of characters, any other character
for itself in either case. -/
inductive Globs : List Char → List Char → Prop where
  | nil : Globs [] []
  | star (run : List Char) {keyword found : List Char} (h : Globs keyword found) :
      Globs ('*' :: keyword) (run ++ found)
  | char {p c : Char} {keyword found : List Char} (hstar : p ≠ '*') (hcase : sameFold p c)
      (h : Globs keyword found) : Globs (p :: keyword) (c :: found)

theorem globs_star_iff {keyword found : List Char} :
    Globs ('*' :: keyword) found ↔ ∃ run rest, found = run ++ rest ∧ Globs keyword rest := by
  constructor
  · intro h
    cases h with
    | star run h => exact ⟨run, _, rfl, h⟩
    | char hstar => exact absurd rfl hstar
  · rintro ⟨run, rest, rfl, h⟩
    exact .star run h

theorem globs_char_iff {p : Char} {keyword found : List Char} (hstar : p ≠ '*') :
    Globs (p :: keyword) found ↔
      ∃ c rest, found = c :: rest ∧ sameFold p c ∧ Globs keyword rest := by
  constructor
  · intro h
    cases h with
    | star => exact absurd rfl hstar
    | char _ hcase h => exact ⟨_, _, rfl, hcase, h⟩
  · rintro ⟨c, rest, rfl, hcase, h⟩
    exact .char hstar hcase h

namespace Keyword

/-! ## Pieces -/

/-- Whether a piece stands for a text of its own length. -/
def Spells : List Char → List Char → Prop := List.Forall₂ fun p c => sameFold p c

/-- Whether pieces stand in a text one behind the other. -/
def Stands : List (List Char) → List Char → Prop
  | [], _ => True
  | piece :: pieces, text =>
    ∃ before found rest, text = before ++ found ++ rest ∧ Spells piece found ∧ Stands pieces rest

/-- More text before them takes nothing away. -/
theorem Stands.of_suffix {pieces : List (List Char)} {rest text : List Char}
    (h : Stands pieces rest) (hsuffix : rest <:+ text) : Stands pieces text := by
  obtain ⟨more, rfl⟩ := hsuffix
  cases pieces with
  | nil => trivial
  | cons piece pieces =>
    obtain ⟨before, found, rest, rfl, hspells, hrest⟩ := h
    exact ⟨more ++ before, found, rest, by simp only [List.append_assoc], hspells, hrest⟩

theorem afterPiece?_eq_some {piece text rest : List Char} :
    afterPiece? piece text = some rest ↔ ∃ found, text = found ++ rest ∧ Spells piece found := by
  induction piece generalizing text with
  | nil =>
    rw [afterPiece?, Option.some.injEq]
    constructor
    · rintro rfl
      exact ⟨[], rfl, .nil⟩
    · rintro ⟨found, rfl, hspells⟩
      cases hspells
      rfl
  | cons p piece ih =>
    cases text with
    | nil =>
      rw [afterPiece?]
      constructor
      · intro h
        cases h
      · rintro ⟨found, htext, hspells⟩
        cases hspells
        cases htext
    | cons c text =>
      rw [afterPiece?]
      by_cases hcase : sameFold p c
      · rw [if_pos hcase, ih]
        constructor
        · rintro ⟨found, rfl, hspells⟩
          exact ⟨c :: found, rfl, .cons hcase hspells⟩
        · rintro ⟨found, htext, hspells⟩
          cases hspells with
          | cons _ hspells =>
            obtain ⟨-, rfl⟩ := List.cons.inj htext
            exact ⟨_, rfl, hspells⟩
      · rw [if_neg hcase]
        constructor
        · intro h
          cases h
        · rintro ⟨found, htext, hspells⟩
          cases hspells with
          | cons hsame hspells =>
            obtain ⟨rfl, -⟩ := List.cons.inj htext
            exact absurd hsame hcase

/-- The piece stands before what follows the first place it stands at. -/
theorem of_afterFirst? {piece text rest : List Char} (h : afterFirst? piece text = some rest) :
    ∃ before found, text = before ++ found ++ rest ∧ Spells piece found := by
  induction text with
  | nil =>
    obtain ⟨found, htext, hspells⟩ := afterPiece?_eq_some.mp h
    exact ⟨[], found, htext, hspells⟩
  | cons c text ih =>
    rw [afterFirst?] at h
    split at h
    · rename_i found hpiece
      cases h
      obtain ⟨found, htext, hspells⟩ := afterPiece?_eq_some.mp hpiece
      exact ⟨[], found, htext, hspells⟩
    · obtain ⟨before, found, rfl, hspells⟩ := ih h
      exact ⟨c :: before, found, rfl, hspells⟩

/-- Nowhere else the piece leaves more of the text. -/
theorem exists_afterFirst? {piece found : List Char} (before rest : List Char)
    (hspells : Spells piece found) :
    ∃ more, afterFirst? piece (before ++ found ++ rest) = some more ∧ rest <:+ more := by
  induction before with
  | nil =>
    have hpiece : afterPiece? piece (found ++ rest) = some rest :=
      afterPiece?_eq_some.mpr ⟨found, rfl, hspells⟩
    refine ⟨rest, ?_, List.suffix_refl rest⟩
    rw [List.nil_append]
    cases htext : found ++ rest with
    | nil =>
      rw [htext] at hpiece
      exact hpiece
    | cons c text =>
      rw [htext] at hpiece
      rw [afterFirst?, hpiece]
  | cons c before ih =>
    obtain ⟨more, hmore, hsuffix⟩ := ih
    rw [List.cons_append, List.cons_append, afterFirst?]
    split
    · rename_i early hpiece
      -- Standing here already it leaves even what comes before the other place.
      obtain ⟨here, htext, hhere⟩ := afterPiece?_eq_some.mp hpiece
      refine ⟨early, rfl, ?_⟩
      have hlength : here.length = found.length :=
        hhere.length_eq.symm.trans hspells.length_eq
      have hends : (c :: before ++ found) ++ rest = here ++ early := htext
      have hearly : early <:+ c :: before ++ found ++ rest := hends ▸ List.suffix_append here early
      refine List.suffix_of_suffix_length_le (List.suffix_append _ _) hearly ?_
      have hlengths := congrArg List.length hends
      simp only [List.length_append, List.length_cons] at hlengths
      omega
    · exact ⟨more, hmore, hsuffix⟩

/-- Taking each piece as early as it stands finds them all if they stand in the text at all. -/
theorem standIn_iff {pieces : List (List Char)} {text : List Char} :
    standIn pieces text ↔ Stands pieces text := by
  induction pieces generalizing text with
  | nil => exact ⟨fun _ => trivial, fun _ => rfl⟩
  | cons piece pieces ih =>
    rw [standIn]
    constructor
    · intro h
      split at h
      · rename_i rest hfirst
        obtain ⟨before, found, htext, hspells⟩ := of_afterFirst? hfirst
        exact ⟨before, found, rest, htext, hspells, ih.mp h⟩
      · cases h
    · rintro ⟨before, found, rest, rfl, hspells, hrest⟩
      obtain ⟨more, hmore, hsuffix⟩ := exists_afterFirst? before rest hspells
      rw [hmore]
      exact ih.mpr (hrest.of_suffix hsuffix)

/-- Whether pieces stand in a text one behind the other, the first of them at its beginning. -/
def Begins (pieces : List (List Char)) (text : List Char) : Prop :=
  ∃ found rest, text = found ++ rest ∧ Spells (pieces.headD []) found ∧ Stands pieces.tail rest

theorem stands_fields_iff {p : Char → Bool} {keyword text : List Char} :
    Stands (fields p keyword) text ↔
      ∃ before rest, text = before ++ rest ∧ Begins (fields p keyword) rest := by
  obtain ⟨piece, pieces, hfields⟩ := exists_fieldsFrom_eq p keyword
  rw [fields, hfields []]
  constructor
  · rintro ⟨before, found, rest, rfl, hspells, hrest⟩
    exact ⟨before, found ++ rest, by simp, found, rest, rfl, hspells, hrest⟩
  · rintro ⟨before, text, rfl, found, rest, rfl, hspells, hrest⟩
    exact ⟨before, found, rest, by simp, hspells, hrest⟩

/-- The pieces of a keyword stand at the beginning of a text as the keyword does. -/
theorem begins_fields_iff {keyword text : List Char} :
    Begins (fields (· == '*') keyword) text ↔
      ∃ found rest, text = found ++ rest ∧ Globs keyword found := by
  induction keyword generalizing text with
  | nil =>
    constructor
    · intro _
      exact ⟨[], text, rfl, .nil⟩
    · intro _
      exact ⟨[], text, rfl, .nil, trivial⟩
  | cons p keyword ih =>
    by_cases hstar : p = '*'
    · subst hstar
      rw [fields_cons_of_pos (by decide)]
      constructor
      · rintro ⟨found, rest, rfl, hspells, hrest⟩
        cases hspells
        obtain ⟨run, text, rfl, hbegins⟩ := stands_fields_iff.mp hrest
        obtain ⟨found, rest, rfl, hglobs⟩ := ih.mp hbegins
        exact ⟨run ++ found, rest, by simp, .star run hglobs⟩
      · rintro ⟨found, rest, rfl, hglobs⟩
        obtain ⟨run, found, rfl, hinner⟩ := globs_star_iff.mp hglobs
        refine ⟨[], run ++ found ++ rest, rfl, .nil, stands_fields_iff.mpr ?_⟩
        exact ⟨run, found ++ rest, by simp, ih.mpr ⟨found, rest, rfl, hinner⟩⟩
    · obtain ⟨first, more, hfields, hcons⟩ :=
        fields_cons_of_neg (p := (· == '*')) (by simpa using hstar) keyword
      rw [hfields] at ih
      rw [hcons]
      constructor
      · rintro ⟨found, rest, rfl, hspells, hrest⟩
        cases hspells with
        | cons hcase hspells =>
          obtain ⟨found, rest, htext, hglobs⟩ := ih.mp ⟨_, rest, rfl, hspells, hrest⟩
          exact ⟨_ :: found, rest, congrArg (List.cons _) htext, .char hstar hcase hglobs⟩
      · rintro ⟨found, rest, rfl, hglobs⟩
        obtain ⟨c, found, rfl, hcase, hglobs⟩ := (globs_char_iff hstar).mp hglobs
        obtain ⟨spelled, rest, htext, hspells, hrest⟩ := ih.mpr ⟨found, rest, rfl, hglobs⟩
        exact ⟨c :: spelled, rest, congrArg (List.cons c) htext, .cons hcase hspells, hrest⟩

/-- Whether a keyword stands for a part of a text. -/
def Within (keyword text : List Char) : Prop := ∃ found, found <:+: text ∧ Globs keyword found

theorem within_iff {keyword text : List Char} :
    Within keyword text ↔
      ∃ count ≤ text.length, ∃ found, found <+: text.drop count ∧ Globs keyword found := by
  constructor
  · rintro ⟨found, ⟨before, after, rfl⟩, hglobs⟩
    refine ⟨before.length, by simp, found, ⟨after, ?_⟩, hglobs⟩
    rw [List.append_assoc, List.drop_left]
  · rintro ⟨count, -, found, hfound, hglobs⟩
    exact ⟨found, hfound.isInfix.trans (List.drop_suffix count text).isInfix, hglobs⟩

/-- A keyword occurs in a text without a line feed just when it stands for a part of it. -/
theorem occursIn_ofText_iff {keyword text : List Char} (hline : '\n' ∉ text) :
    (ofText keyword).occursIn text ↔ Within keyword text := by
  have hfields : fields (· == '\n') text = [text] :=
    fields_eq_singleton _ _ fun c hc => beq_eq_false_iff_ne.mpr fun heq => hline (heq ▸ hc)
  rw [occursIn, hfields, List.any_cons, List.any_nil, Bool.or_false, standIn_iff, ofText,
    stands_fields_iff]
  constructor
  · rintro ⟨before, rest, rfl, hbegins⟩
    obtain ⟨found, after, rfl, hglobs⟩ := begins_fields_iff.mp hbegins
    exact ⟨found, ⟨before, after, List.append_assoc _ _ _⟩, hglobs⟩
  · rintro ⟨found, ⟨before, after, rfl⟩, hglobs⟩
    exact ⟨before, found ++ after, List.append_assoc _ _ _,
      begins_fields_iff.mpr ⟨found, after, rfl, hglobs⟩⟩

end Keyword

end LinkDigest
