import LinkDigest.Anchor
import Mathlib.Data.List.TakeWhile

/-!
# Tags of anchors

What the tag of an anchor is, from its `<` to the quote that ends its link, said without
any search. A text is found to begin with such a tag just if it does.
-/

namespace LinkDigest.Anchor

open LinkDigest.Text

/-- The word that names the link of an anchor. -/
def linkWord : List Char := ['h', 'r', 'e', 'f']

/-- A value in quotes that is not empty. Either quote begins it and either ends it, so that
it holds neither. -/
inductive IsQuoted : List Char → List Char → Prop where
  | intro {opening closing : Char} {value : List Char} (hopening : isQuote opening)
      (hclosing : isQuote closing) (hne : value ≠ []) (hvalue : ∀ c ∈ value, isQuote c = false) :
      IsQuoted (opening :: (value ++ [closing])) value

/-- The attribute that gives the link, with blanks around its equals sign. -/
inductive IsAttribute : List Char → List Char → Prop where
  | intro {word before after quoted value : List Char} (hword : asciiLowercase word = linkWord)
      (hbefore : ∀ c ∈ before, isBlank c) (hafter : ∀ c ∈ after, isBlank c)
      (hquoted : IsQuoted quoted value) :
      IsAttribute (word ++ (before ++ '=' :: (after ++ quoted))) value

/-- The tag of an anchor, up to the end of its link. -/
inductive IsTag : List Char → List Char → Prop where
  | intro {name blank : Char} {skipped link value : List Char} (hname : name.toLower = 'a')
      (hblank : isBlank blank) (hskipped : '>' ∉ skipped) (hlink : IsAttribute link value) :
      IsTag ('<' :: name :: blank :: (skipped ++ link)) value

theorem IsQuoted.isQuote_eq_false {written value : List Char} (h : IsQuoted written value) :
    ∀ c ∈ value, isQuote c = false := by
  obtain ⟨-, -, -, hvalue⟩ := h
  exact hvalue

theorem IsTag.isQuote_eq_false {written value : List Char} (h : IsTag written value) :
    ∀ c ∈ value, isQuote c = false := by
  obtain ⟨-, -, -, ⟨-, -, -, hquoted⟩⟩ := h
  exact hquoted.isQuote_eq_false

/-! ## Words -/

theorem afterWord?_eq_some_iff {word text rest : List Char} :
    afterWord? word text = some rest ↔
      ∃ written, asciiLowercase written = word ∧ text = written ++ rest := by
  induction word generalizing text with
  | nil =>
    rw [afterWord?, Option.some.injEq]
    constructor
    · rintro rfl
      exact ⟨[], rfl, rfl⟩
    · rintro ⟨written, hwritten, rfl⟩
      rw [List.map_eq_nil_iff.mp hwritten, List.nil_append]
  | cons w word ih =>
    cases text with
    | nil =>
      rw [afterWord?]
      refine iff_of_false (by simp) ?_
      rintro ⟨written, hwritten, hnil⟩
      rw [(List.append_eq_nil_iff.mp hnil.symm).1] at hwritten
      cases hwritten
    | cons c text =>
      rw [afterWord?]
      constructor
      · intro h
        split at h
        · rename_i hc
          obtain ⟨written, hwritten, rfl⟩ := ih.mp h
          exact ⟨c :: written, List.cons_eq_cons.mpr ⟨hc, hwritten⟩, rfl⟩
        · cases h
      · rintro ⟨written, hwritten, htext⟩
        cases written with
        | nil => cases hwritten
        | cons d written =>
          obtain ⟨rfl, rfl⟩ := List.cons.inj htext
          obtain ⟨hc, hrest⟩ := List.cons.inj hwritten
          rw [if_pos hc]
          exact ih.mpr ⟨written, hrest, rfl⟩

/-! ## Values -/

theorem quoted?_append {written value : List Char} (h : IsQuoted written value)
    (rest : List Char) : quoted? (written ++ rest) = some (value, rest) := by
  obtain ⟨hopening, hclosing, hne, hvalue⟩ := h
  rename_i opening closing
  have hinside : ∀ c ∈ value, (!isQuote c) = true := by simpa using hvalue
  have hends : isQuote closing = true := hclosing
  rw [List.cons_append, List.append_assoc, List.singleton_append, quoted?, if_pos hopening,
    List.dropWhile_append_of_pos hinside, List.takeWhile_append_of_pos hinside,
    List.dropWhile_cons_of_neg (by simp [hends]), List.takeWhile_cons_of_neg (by simp [hends]),
    List.append_nil]
  simp [hne]

theorem exists_isQuoted {text value rest : List Char} (h : quoted? text = some (value, rest)) :
    ∃ written, IsQuoted written value ∧ text = written ++ rest := by
  cases text with
  | nil => cases h
  | cons quote text =>
    rw [quoted?] at h
    split at h
    · rename_i hquote
      split at h
      · cases h
      · rename_i closing after hdrop
        simp only at h
        split at h
        · cases h
        · rename_i hne
          obtain ⟨rfl, rfl⟩ := Prod.mk.inj (Option.some.inj h)
          have hclosing : isQuote closing := by
            simpa [hdrop] using List.head_dropWhile_not (fun c => !isQuote c) (l := text)
              (by rw [hdrop]; simp)
          refine ⟨_, .intro hquote hclosing (by simpa using hne) fun c hc => ?_, ?_⟩
          · simpa using List.mem_takeWhile_imp hc
          · rw [List.cons_append, List.append_assoc, List.singleton_append, ← hdrop,
              List.takeWhile_append_dropWhile]
    · cases h

/-! ## Attributes -/

theorem not_isBlank_of_isQuote {c : Char} (h : isQuote c) : isBlank c = false := by
  simp only [isQuote, Bool.or_eq_true, beq_iff_eq] at h
  rcases h with rfl | rfl <;> rfl

theorem attribute?_append {written value : List Char} (h : IsAttribute written value)
    (rest : List Char) : attribute? (written ++ rest) = some (value, rest) := by
  obtain ⟨hword, hbefore, hafter, hquoted⟩ := h
  rename_i word before after quoted
  obtain ⟨opening, more, rfl⟩ : ∃ opening more, quoted = opening :: more := by
    cases hquoted
    exact ⟨_, _, rfl⟩
  have hopening : isBlank opening = false := by
    cases hquoted with
    | intro hopening => exact not_isBlank_of_isQuote hopening
  have hfound : afterWord? linkWord (word ++ (before ++ '=' :: (after ++ opening :: more)) ++ rest) =
      some (before ++ '=' :: (after ++ (opening :: more ++ rest))) :=
    afterWord?_eq_some_iff.mpr ⟨word, hword, by simp⟩
  have hequals : (before ++ '=' :: (after ++ (opening :: more ++ rest))).dropWhile isBlank =
      '=' :: (after ++ (opening :: more ++ rest)) := by
    rw [List.dropWhile_append_of_pos hbefore, List.dropWhile_cons_of_neg (by decide)]
  have hquote : (after ++ (opening :: more ++ rest)).dropWhile isBlank = opening :: more ++ rest := by
    rw [List.dropWhile_append_of_pos hafter, List.cons_append,
      List.dropWhile_cons_of_neg (by simp [hopening])]
  unfold linkWord at hfound
  rw [attribute?, hfound]
  simp only [hequals, hquote]
  exact quoted?_append hquoted rest

theorem exists_blanks {text rest : List Char} (h : text.dropWhile isBlank = rest) :
    ∃ blanks, (∀ c ∈ blanks, isBlank c) ∧ text = blanks ++ rest :=
  ⟨text.takeWhile isBlank, fun _ => List.mem_takeWhile_imp,
    by rw [← h, List.takeWhile_append_dropWhile]⟩

theorem exists_isAttribute {text value rest : List Char}
    (h : attribute? text = some (value, rest)) :
    ∃ written, IsAttribute written value ∧ text = written ++ rest := by
  rw [attribute?] at h
  split at h
  · cases h
  · rename_i behind hfound
    obtain ⟨word, hword, rfl⟩ := afterWord?_eq_some_iff.mp hfound
    split at h
    · rename_i more hequals
      obtain ⟨before, hbefore, rfl⟩ := exists_blanks hequals
      obtain ⟨quoted, hquoted, hmore⟩ := exists_isQuoted h
      obtain ⟨after, hafter, rfl⟩ := exists_blanks hmore
      exact ⟨_, .intro hword hbefore hafter hquoted, by simp⟩
    · cases h

/-! ## Tags -/

/-- Within a tag whatever begins no attribute is passed over. -/
theorem withinTag?_append {skipped : List Char} (hskipped : '>' ∉ skipped) {rest : List Char}
    (hnone : ∀ back, back <:+ skipped → back ≠ [] → attribute? (back ++ rest) = none) :
    withinTag? (skipped ++ rest) = withinTag? rest := by
  induction skipped with
  | nil => rfl
  | cons c skipped ih =>
    obtain ⟨hc, hrest⟩ := not_or.mp (List.mem_cons.not.mp hskipped)
    have hfirst := hnone (c :: skipped) List.suffix_rfl (List.cons_ne_nil c skipped)
    rw [List.cons_append] at hfirst ⊢
    rw [withinTag?, hfirst, if_neg (Ne.symm hc)]
    exact ih hrest fun back hback => hnone back (hback.trans (List.suffix_cons c skipped))

theorem withinTag?_of_attribute? {text : List Char} {found : List Char × List Char}
    (h : attribute? text = some found) : withinTag? text = some found := by
  cases text with
  | nil => cases h
  | cons c text => rw [withinTag?, h]

theorem isSome_withinTag?_append {skipped : List Char} (hskipped : '>' ∉ skipped)
    {rest : List Char} (h : (attribute? rest).isSome) : (withinTag? (skipped ++ rest)).isSome := by
  induction skipped with
  | nil =>
    obtain ⟨found, hfound⟩ := Option.isSome_iff_exists.mp h
    rw [List.nil_append, withinTag?_of_attribute? hfound]
    rfl
  | cons c skipped ih =>
    obtain ⟨hc, hrest⟩ := not_or.mp (List.mem_cons.not.mp hskipped)
    rw [List.cons_append, withinTag?]
    split
    · rfl
    · rw [if_neg (Ne.symm hc)]
      exact ih hrest

theorem exists_of_withinTag? {text value rest : List Char}
    (h : withinTag? text = some (value, rest)) :
    ∃ skipped written, '>' ∉ skipped ∧ IsAttribute written value ∧
      text = skipped ++ (written ++ rest) := by
  induction text with
  | nil => cases h
  | cons c text ih =>
    rw [withinTag?] at h
    split at h
    · rename_i found hfound
      obtain ⟨written, hwritten, htext⟩ := exists_isAttribute (hfound.trans h)
      exact ⟨[], written, List.not_mem_nil, hwritten, htext⟩
    · split at h
      · cases h
      · rename_i hc
        obtain ⟨skipped, written, hskipped, hwritten, rfl⟩ := ih h
        exact ⟨c :: skipped, written, List.not_mem_cons_of_ne_of_not_mem (Ne.symm hc) hskipped,
          hwritten, rfl⟩

/-- What is read of an anchor is a tag that the text begins with. -/
theorem exists_isTag {text value rest : List Char} (h : anchor? text = some (value, rest)) :
    ∃ written, IsTag written value ∧ text = written ++ rest := by
  unfold anchor? at h
  split at h
  · split at h
    · rename_i name blank more hfront
      obtain ⟨skipped, written, hskipped, hwritten, rfl⟩ := exists_of_withinTag? h
      exact ⟨_, .intro hfront.1 hfront.2 hskipped hwritten, by simp⟩
    · cases h
  · cases h

/-- Where a tag begins an anchor is read, if not with the same link. -/
theorem isSome_anchor?_append {written value : List Char} (h : IsTag written value)
    (rest : List Char) : (anchor? (written ++ rest)).isSome := by
  obtain ⟨hname, hblank, hskipped, hlink⟩ := h
  rename_i name blank skipped link
  have hattribute : (attribute? (link ++ rest)).isSome := by
    rw [attribute?_append hlink]
    rfl
  have hwithin := isSome_withinTag?_append hskipped hattribute
  rw [← List.append_assoc] at hwithin
  show (if _ then withinTag? (skipped ++ link ++ rest) else none).isSome
  rwa [if_pos ⟨hname, hblank⟩]

end LinkDigest.Anchor
