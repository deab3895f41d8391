/-!
# Searching

A text cut at the first place another text stands at.
-/

namespace LinkDigest.Text

/-- What stands before and after the first `mark`, where `before` holds what
has been passed over, reversed. -/
def cutFrom? (mark : List Char) (before : List Char) : List Char → Option (List Char × List Char)
  | [] => if mark.isEmpty then some (before.reverse, []) else none
  | c :: text =>
    if mark.isPrefixOf (c :: text) then some (before.reverse, (c :: text).drop mark.length)
    else cutFrom? mark (c :: before) text

/-- What stands before and after the first `mark`. -/
def cut? (mark text : List Char) : Option (List Char × List Char) := cutFrom? mark [] text

/-- Whether the text holds `mark`. -/
def holds (mark text : List Char) : Bool := (cut? mark text).isSome

/-- Nothing is lost where a text is cut. -/
theorem cutFrom?_eq_some {mark text before left right : List Char}
    (h : cutFrom? mark before text = some (left, right)) :
    before.reverse ++ text = left ++ mark ++ right := by
  induction text generalizing before with
  | nil =>
    simp only [cutFrom?] at h
    split at h
    · next hm =>
      simp only [Option.some.injEq, Prod.mk.injEq] at h
      obtain ⟨rfl, rfl⟩ := h
      simp [List.isEmpty_iff.1 hm]
    · cases h
  | cons c text ih =>
    simp only [cutFrom?] at h
    split at h
    · next hm =>
      simp only [Option.some.injEq, Prod.mk.injEq] at h
      obtain ⟨rfl, rfl⟩ := h
      obtain ⟨rest, hrest⟩ := List.isPrefixOf_iff_prefix.1 hm
      simp [← hrest]
    · simpa using ih h

theorem cut?_eq_some {mark text left right : List Char}
    (h : cut? mark text = some (left, right)) : text = left ++ mark ++ right := by
  simpa using cutFrom?_eq_some h

end LinkDigest.Text
