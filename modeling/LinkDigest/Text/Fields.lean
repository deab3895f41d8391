/-!
# Fields

Text cut at every separator. There is always one field more than there are
separators, so the empty text is one empty field.
-/

namespace LinkDigest.Text

/-- The fields of the text, where `acc` holds the field begun so far, reversed. -/
def fieldsFrom (isSeparator : Char → Bool) (acc : List Char) : List Char → List (List Char)
  | [] => [acc.reverse]
  | c :: cs =>
    if isSeparator c then acc.reverse :: fieldsFrom isSeparator [] cs
    else fieldsFrom isSeparator (c :: acc) cs

/-- The text cut at every separator, separators left out. -/
def fields (isSeparator : Char → Bool) (text : List Char) : List (List Char) :=
  fieldsFrom isSeparator [] text

/-- The number of separators, plus one. -/
theorem length_fieldsFrom (p : Char → Bool) (text : List Char) :
    ∀ acc, (fieldsFrom p acc text).length = text.countP p + 1 := by
  induction text with
  | nil => intro acc; rfl
  | cons c cs ih =>
    intro acc
    by_cases h : p c <;> simp [fieldsFrom, h, ih]

theorem length_fields (p : Char → Bool) (text : List Char) :
    (fields p text).length = text.countP p + 1 :=
  length_fieldsFrom p text []

/-- No field holds a separator. -/
theorem not_mem_fieldsFrom (p : Char → Bool) (text : List Char) :
    ∀ acc, (∀ c ∈ acc, p c = false) →
      ∀ field ∈ fieldsFrom p acc text, ∀ c ∈ field, p c = false := by
  induction text with
  | nil =>
    intro acc hacc field hfield c hc
    simp only [fieldsFrom, List.mem_singleton] at hfield
    subst hfield
    exact hacc c (by simpa using hc)
  | cons d ds ih =>
    intro acc hacc field hfield
    by_cases h : p d
    · simp only [fieldsFrom, h, if_true, List.mem_cons] at hfield
      rcases hfield with rfl | hfield
      · intro c hc
        exact hacc c (by simpa using hc)
      · exact ih [] (by simp) field hfield
    · simp only [fieldsFrom, h] at hfield
      refine ih (d :: acc) ?_ field hfield
      intro c hc
      rcases List.mem_cons.mp hc with rfl | hc
      · simpa using h
      · exact hacc c hc

theorem not_mem_fields (p : Char → Bool) (text : List Char) :
    ∀ field ∈ fields p text, ∀ c ∈ field, p c = false :=
  not_mem_fieldsFrom p text [] (by simp)

/-- A text without separators is one field. -/
theorem fieldsFrom_eq_singleton (p : Char → Bool) (text : List Char) :
    ∀ acc, (∀ c ∈ text, p c = false) → fieldsFrom p acc text = [acc.reverse ++ text] := by
  induction text with
  | nil => intro acc _; simp [fieldsFrom]
  | cons c cs ih =>
    intro acc h
    simp [fieldsFrom, h c (by simp), ih (c :: acc) (fun d hd => h d (by simp [hd]))]

theorem fields_eq_singleton (p : Char → Bool) (text : List Char)
    (h : ∀ c ∈ text, p c = false) : fields p text = [text] := by
  simpa [fields] using fieldsFrom_eq_singleton p text [] h

/-- A separator ends the field before it. -/
theorem fieldsFrom_append_cons {p : Char → Bool} {text rest : List Char} {c : Char}
    (htext : ∀ d ∈ text, p d = false) (hc : p c) :
    ∀ acc, fieldsFrom p acc (text ++ c :: rest) = (acc.reverse ++ text) :: fields p rest := by
  induction text with
  | nil => intro acc; simp [fieldsFrom, hc, fields]
  | cons d ds ih =>
    intro acc
    have hd : p d = false := htext d List.mem_cons_self
    simp [fieldsFrom, hd, ih (fun e he => htext e (List.mem_cons_of_mem _ he)) (d :: acc)]

theorem fields_append_cons {p : Char → Bool} {text rest : List Char} {c : Char}
    (htext : ∀ d ∈ text, p d = false) (hc : p c) :
    fields p (text ++ c :: rest) = text :: fields p rest :=
  fieldsFrom_append_cons htext hc []

/-- Texts without separators are the fields of what they are joined to. -/
theorem fields_intercalate {p : Char → Bool} {c : Char} (hc : p c) {texts : List (List Char)}
    (hne : texts ≠ []) (htexts : ∀ text ∈ texts, ∀ d ∈ text, p d = false) :
    fields p ([c].intercalate texts) = texts := by
  induction texts with
  | nil => exact absurd rfl hne
  | cons text rest ih =>
    have htext := htexts text List.mem_cons_self
    cases rest with
    | nil => simpa [List.intercalate] using fields_eq_singleton p text htext
    | cons next more =>
      have hrest := ih (List.cons_ne_nil _ _) fun other hother =>
        htexts other (List.mem_cons_of_mem _ hother)
      rw [List.intercalate_cons_cons, List.append_assoc, List.singleton_append,
        fields_append_cons htext hc, hrest]

/-- All in texts that are joined is the separator or in one of them. -/
theorem of_mem_intercalate {c d : Char} {texts : List (List Char)}
    (h : d ∈ [c].intercalate texts) : d = c ∨ ∃ text ∈ texts, d ∈ text := by
  induction texts with
  | nil => cases h
  | cons text rest ih =>
    cases rest with
    | nil => exact .inr ⟨text, List.mem_cons_self, by simpa using h⟩
    | cons next more =>
      rw [List.intercalate_cons_cons] at h
      rcases List.mem_append.mp h with h | h
      · rcases List.mem_append.mp h with h | h
        · exact .inr ⟨text, List.mem_cons_self, h⟩
        · exact .inl (List.mem_singleton.mp h)
      · exact (ih h).imp_right fun ⟨other, hother, hd⟩ =>
          ⟨other, List.mem_cons_of_mem _ hother, hd⟩

end LinkDigest.Text
