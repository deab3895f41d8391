import LinkDigest.Text.Search
import Mathlib.Data.List.Infix

/-!
# The first place of a mark

Where a text is cut. What is before the first mark holds none, and a mark is looked for
behind a text that holds none as if the text were not there, if no mark begins in it and
ends beyond it.
-/

namespace LinkDigest.Text

variable {mark left right text : List Char}

/-- What has been passed over stands before all that is found. -/
theorem cutFrom?_eq_map (mark before text : List Char) : cutFrom? mark before text =
    (cut? mark text).map fun parts => (before.reverse ++ parts.1, parts.2) := by
  induction text generalizing before with
  | nil =>
    unfold cut? cutFrom?
    split <;> simp
  | cons c text ih =>
    unfold cut? cutFrom?
    split
    · simp
    · rw [ih, ih [c], Option.map_map]
      simp [Function.comp_def]

theorem cut?_cons {c : Char} (h : ¬ mark <+: c :: text) :
    cut? mark (c :: text) = (cut? mark text).map fun parts => (c :: parts.1, parts.2) := by
  rw [cut?, cutFrom?, if_neg (by rwa [List.isPrefixOf_iff_prefix]), cutFrom?_eq_map]
  rfl

/-- A mark in front is the first one. -/
theorem cut?_mark_append (hmark : mark ≠ []) (right : List Char) :
    cut? mark (mark ++ right) = some ([], right) := by
  obtain ⟨c, rest, rfl⟩ := List.exists_cons_of_ne_nil hmark
  rw [List.cons_append, cut?, cutFrom?, if_pos (by simp), ← List.cons_append, List.drop_left]
  rfl

theorem cut?_eq_none (h : ¬ mark <:+: text) : cut? mark text = none := by
  induction text with
  | nil =>
    rw [cut?, cutFrom?, if_neg]
    rw [List.isEmpty_iff]
    rintro rfl
    exact h (List.infix_refl [])
  | cons c text ih =>
    rw [List.infix_cons_iff, not_or] at h
    rw [cut?_cons h.1, ih h.2, Option.map_none]

/-- A mark that begins in a text and ends beyond it goes on with what follows the text. -/
theorem not_prefix_append (hne : left ≠ []) (hleft : ¬ mark <+: left)
    (hright : ∀ c ∈ right.head?, c ∉ mark.tail) : ¬ mark <+: left ++ right := by
  rintro ⟨rest, heq⟩
  rcases List.append_eq_append_iff.mp heq with ⟨more, rfl, -⟩ | ⟨more, rfl, rfl⟩
  · exact hleft (List.prefix_append mark more)
  · cases more with
    | nil => exact hleft (by simp)
    | cons c more =>
      refine hright c rfl ?_
      rw [List.tail_append_of_ne_nil hne]
      exact List.mem_append_right _ List.mem_cons_self

/-- Behind a text without a mark the first mark is that of what follows, if that does not
begin with what a mark goes on with. -/
theorem cut?_append (hleft : ¬ mark <:+: left) (hright : ∀ c ∈ right.head?, c ∉ mark.tail) :
    cut? mark (left ++ right) =
      (cut? mark right).map fun parts => (left ++ parts.1, parts.2) := by
  induction left with
  | nil => simp
  | cons c left ih =>
    rw [List.infix_cons_iff, not_or] at hleft
    have hhere := not_prefix_append (List.cons_ne_nil c left) hleft.1 hright
    rw [List.cons_append] at hhere ⊢
    rw [cut?_cons hhere, ih hleft.2, Option.map_map]
    rfl

/-- Of a mark nothing stands in a text that shares no character with it. -/
theorem infix_of_infix_append (hmark : mark ≠ []) (hleft : ∀ c ∈ left, c ∉ mark)
    (h : mark <:+: left ++ right) : mark <:+: right := by
  induction left with
  | nil => exact h
  | cons c left ih =>
    rcases List.infix_cons_iff.mp h with hhere | hlater
    · obtain ⟨first, rest, rfl⟩ := List.exists_cons_of_ne_nil hmark
      obtain rfl := (List.cons_prefix_cons.mp hhere).1
      exact absurd List.mem_cons_self (hleft first List.mem_cons_self)
    · exact ih (fun d hd => hleft d (List.mem_cons_of_mem c hd)) hlater

end LinkDigest.Text
