import LinkDigest.Text.Fields

/-!
# Pieces of a text

The fields of a text are said without cutting it: a field reaches from one separator to the
next one. Separators end the fields before them one by one.
-/

namespace LinkDigest.Text

/-! ## Cutting from the front -/

theorem exists_fieldsFrom_eq (p : Char → Bool) (text : List Char) :
    ∃ first rest, ∀ acc, fieldsFrom p acc text = (acc.reverse ++ first) :: rest := by
  induction text with
  | nil => exact ⟨[], [], fun acc => by rw [fieldsFrom, List.append_nil]⟩
  | cons c text ih =>
    obtain ⟨first, rest, hfields⟩ := ih
    by_cases hc : p c
    · refine ⟨[], fieldsFrom p [] text, fun acc => ?_⟩
      rw [fieldsFrom, if_pos hc, List.append_nil]
    · refine ⟨c :: first, rest, fun acc => ?_⟩
      rw [fieldsFrom, if_neg hc, hfields, List.reverse_cons, List.append_assoc,
        List.singleton_append]

theorem fields_cons_of_pos {p : Char → Bool} {c : Char} (hc : p c) (text : List Char) :
    fields p (c :: text) = [] :: fields p text := by
  rw [fields, fieldsFrom, if_pos hc, List.reverse_nil]
  rfl

/-- A character that is no separator is the first of the first field. -/
theorem fields_cons_of_neg {p : Char → Bool} {c : Char} (hc : ¬ p c) (text : List Char) :
    ∃ first rest, fields p text = first :: rest ∧ fields p (c :: text) = (c :: first) :: rest := by
  obtain ⟨first, rest, hfields⟩ := exists_fieldsFrom_eq p text
  refine ⟨first, rest, hfields [], ?_⟩
  rw [fields, fieldsFrom, if_neg hc, hfields]
  rfl

/-! ## Pieces -/

/-- Whether a piece of a text reaches from one separator, or the beginning, to the next one,
or the end. -/
def IsPiece (p : Char → Bool) (text piece : List Char) : Prop :=
  ∃ before after, text = before ++ piece ++ after ∧ (∀ c ∈ piece, p c = false) ∧
    (∀ c ∈ before.getLast?, p c) ∧ ∀ c ∈ after.head?, p c

/-- The first field stands at the beginning, and before each other one a separator. -/
theorem of_fields_eq_cons {p : Char → Bool} {text first : List Char} {rest : List (List Char)}
    (h : fields p text = first :: rest) :
    (∃ after, text = first ++ after ∧ ∀ c ∈ after.head?, p c) ∧
      ∀ piece ∈ rest, ∃ before c after, text = before ++ c :: (piece ++ after) ∧ p c ∧
        ∀ c ∈ after.head?, p c := by
  induction text generalizing first rest with
  | nil =>
    cases h
    exact ⟨⟨[], rfl, nofun⟩, nofun⟩
  | cons c text ih =>
    by_cases hc : p c
    · rw [fields_cons_of_pos hc] at h
      cases h
      obtain ⟨next, more, hfields⟩ := exists_fieldsFrom_eq p text
      obtain ⟨⟨after, htext, hafter⟩, hmore⟩ := ih (hfields [])
      refine ⟨⟨c :: text, rfl, by simpa using hc⟩, fun piece hpiece => ?_⟩
      rw [fields, hfields []] at hpiece
      rcases List.mem_cons.mp hpiece with rfl | hpiece
      · exact ⟨[], c, after, congrArg (List.cons c) htext, hc, hafter⟩
      · obtain ⟨before, d, after, rfl, hd, hafter⟩ := hmore piece hpiece
        exact ⟨c :: before, d, after, rfl, hd, hafter⟩
    · obtain ⟨next, more, hfields, hcons⟩ := fields_cons_of_neg hc text
      rw [hcons] at h
      cases h
      obtain ⟨⟨after, htext, hafter⟩, hmore⟩ := ih hfields
      refine ⟨⟨after, congrArg (List.cons c) htext, hafter⟩, fun piece hpiece => ?_⟩
      obtain ⟨before, d, after, rfl, hd, hafter⟩ := hmore piece hpiece
      exact ⟨c :: before, d, after, rfl, hd, hafter⟩

theorem fields_append_cons_of_pos {p : Char → Bool} {c : Char} (hc : p c) (text rest : List Char) :
    fields p (text ++ c :: rest) = fields p text ++ fields p rest := by
  induction text with
  | nil => exact fields_cons_of_pos hc rest
  | cons d text ih =>
    by_cases hd : p d
    · rw [List.cons_append, fields_cons_of_pos hd, fields_cons_of_pos hd, ih, List.cons_append]
    · obtain ⟨first, more, hfields, hcons⟩ := fields_cons_of_neg hd text
      obtain ⟨first', more', hfields', hcons'⟩ := fields_cons_of_neg hd (text ++ c :: rest)
      rw [ih, hfields, List.cons_append] at hfields'
      obtain ⟨rfl, rfl⟩ := List.cons.inj hfields'
      rw [List.cons_append, hcons', hcons, List.cons_append]

theorem mem_fields_iff {p : Char → Bool} {text piece : List Char} :
    piece ∈ fields p text ↔ IsPiece p text piece := by
  constructor
  · intro h
    have hpiece := not_mem_fields p text piece h
    obtain ⟨first, rest, hfields⟩ := exists_fieldsFrom_eq p text
    obtain ⟨⟨after, htext, hafter⟩, hrest⟩ := of_fields_eq_cons (hfields [])
    rw [fields, hfields []] at h
    rcases List.mem_cons.mp h with rfl | h
    · refine ⟨[], after, htext, hpiece, fun c hc => ?_, hafter⟩
      cases hc
    · obtain ⟨before, c, after, htext, hc, hafter⟩ := hrest piece h
      refine ⟨before ++ [c], after, by rw [htext]; simp, hpiece, ?_, hafter⟩
      simpa using hc
  · rintro ⟨before, after, rfl, hpiece, hbefore, hafter⟩
    have hbegins : piece ∈ fields p (piece ++ after) := by
      cases after with
      | nil => rw [List.append_nil, fields_eq_singleton p piece hpiece]; exact List.mem_cons_self
      | cons c after =>
        rw [fields_append_cons hpiece (hafter c rfl)]
        exact List.mem_cons_self
    rcases List.eq_nil_or_concat before with rfl | ⟨before, c, rfl⟩
    · exact hbegins
    · have hc : p c := hbefore c (by simp)
      rw [List.concat_eq_append, List.append_assoc, List.append_assoc, List.singleton_append,
        fields_append_cons_of_pos hc]
      exact List.mem_append_right _ hbegins

end LinkDigest.Text
