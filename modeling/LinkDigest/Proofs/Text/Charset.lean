import LinkDigest.Proofs.Text.Blank
import LinkDigest.Proofs.Text.Lowercase
import LinkDigest.Text.Charset

/-!
# Labels of character sets

A label stands for one character set, in letters of either case; what is no label stands
for none.
-/

namespace LinkDigest.Text.Charset

/-- Whether a text is a label of a set, in letters of either case. -/
def IsLabel (set : Charset) (label : List Char) : Prop :=
  ∃ labels, (set, labels) ∈ labelTable ∧ String.ofList (asciiLowercase label) ∈ labels

theorem isLabel_asciiLowercase {set : Charset} {label : List Char} :
    set.IsLabel (asciiLowercase label) ↔ set.IsLabel label := by
  rw [IsLabel, IsLabel, asciiLowercase_asciiLowercase]

/-- The bytes of a label as one number, by which labels are told apart. -/
def code (label : String) : Nat :=
  label.toByteArray.data.toList.foldl (fun code byte => code * 256 + byte.toNat) 0

theorem disjoint_codes : labelTable.Pairwise fun row other =>
    ∀ label ∈ row.2.map code, label ∉ other.2.map code := by
  decide +kernel

/-- No label stands for two sets, so the first row with a label is the only one. -/
theorem find?_row {row : Charset × List String} (hrow : row ∈ labelTable) {label : String}
    (h : label ∈ row.2) : labelTable.find? (fun other => other.2.contains label) = some row := by
  obtain ⟨before, after, htable⟩ := List.append_of_mem hrow
  have hapart := disjoint_codes
  rw [htable] at hapart ⊢
  rw [List.find?_eq_some_iff_append]
  refine ⟨by simpa using h, before, after, rfl, fun other hother => ?_⟩
  have hcodes := (List.pairwise_append.mp hapart).2.2 other hother row List.mem_cons_self
  have habsent : label ∉ other.2 := fun hlabel =>
    hcodes _ (List.mem_map_of_mem hlabel) (List.mem_map_of_mem h)
  simpa using habsent

/-- A label without blanks is looked up in small letters. -/
theorem canonicalLabel_eq {label : List Char} (h : ∀ c ∈ label, isAsciiBlank c = false) :
    canonicalLabel label = asciiLowercase label := by
  rw [canonicalLabel, strip_eq_self h]
  rfl

/-- A text without blanks is read as the set that it is a label of. -/
theorem ofLabel?_eq_some_iff {label : List Char} (h : ∀ c ∈ label, isAsciiBlank c = false)
    (set : Charset) : ofLabel? (String.ofList label) = some set ↔ set.IsLabel label := by
  unfold ofLabel?
  simp only [String.toList_ofList, canonicalLabel_eq h]
  rw [Option.map_eq_some_iff]
  constructor
  · rintro ⟨⟨known, labels⟩, hfind, rfl⟩
    exact ⟨labels, List.mem_of_find?_eq_some hfind, by simpa using List.find?_some hfind⟩
  · rintro ⟨labels, hrow, hlabel⟩
    exact ⟨(set, labels), find?_row hrow hlabel, rfl⟩

end LinkDigest.Text.Charset
