import LinkDigest.Proofs.Text.Utf8
import LinkDigest.Proofs.Url.Percent
import LinkDigest.Url.Parse

/-!
# Reading paths that were written

The segments of a path of the web have nothing to escape, no slashes and are no dot
segments, so what is written for them is read as just these segments.
-/

namespace LinkDigest.Url

open LinkDigest.Text

/-! ## Dots -/

/-- What follows a dot at the front, escaped or not. -/
def dotRest? : List Char → Option (List Char)
  | '.' :: rest => some rest
  | '%' :: '2' :: 'e' :: rest => some rest
  | '%' :: '2' :: 'E' :: rest => some rest
  | _ => none

theorem isSingleDot_eq (segment : List Char) :
    isSingleDot segment = (dotRest? segment == some []) := by
  unfold isSingleDot dotRest?
  split <;> simp_all

theorem isDoubleDot_eq (segment : List Char) :
    isDoubleDot segment = (dotRest? segment).any isSingleDot := by
  unfold isDoubleDot dotRest?
  split <;> simp_all

/-- A way of writing that makes no dots. -/
structure MakesNoDots (write : List Char → List Char) : Prop where
  dotRest? : ∀ text rest, dotRest? (write text) = some rest →
    ∃ before, dotRest? text = some before ∧ rest = write before
  eq_nil : ∀ text, write text = [] → text = []

namespace MakesNoDots

variable {write : List Char → List Char} {segment : List Char}

theorem isSingleDot (h : MakesNoDots write) (hdot : isSingleDot (write segment)) :
    isSingleDot segment := by
  rw [isSingleDot_eq, beq_iff_eq] at hdot ⊢
  obtain ⟨rest, hrest, hwritten⟩ := h.dotRest? segment [] hdot
  rw [hrest, h.eq_nil rest hwritten.symm]

theorem isDoubleDot (h : MakesNoDots write) (hdot : isDoubleDot (write segment)) :
    isDoubleDot segment := by
  rw [isDoubleDot_eq, Option.any_eq_true] at hdot ⊢
  obtain ⟨written, hwritten, hsingle⟩ := hdot
  obtain ⟨rest, hrest, rfl⟩ := h.dotRest? segment written hwritten
  exact ⟨rest, hrest, h.isSingleDot hsingle⟩

end MakesNoDots

namespace Percent

/-- The bytes of a character begin with that of a dot only if it is one. -/
theorem exists_utf8EncodeChar (c : Char) :
    ∃ byte rest, String.utf8EncodeChar c = byte :: rest ∧ (byte.toNat = 0x2E → c = '.') := by
  obtain ⟨byte, rest, hbytes⟩ : ∃ byte rest, String.utf8EncodeChar c = byte :: rest := by
    rcases Utf8.utf8EncodeChar_cases c with ⟨byte, hbytes, -⟩ | ⟨byte, p, rest, hbytes, -⟩
    · exact ⟨byte, [], hbytes⟩
    · exact ⟨byte, rest, hbytes⟩
  refine ⟨byte, rest, hbytes, fun hdot => ?_⟩
  have hmem : byte ∈ String.utf8EncodeChar c := hbytes ▸ List.mem_cons_self
  rw [← Utf8.eq_of_mem_utf8EncodeChar hmem (by omega), hdot]

theorem encode_eq_nil {p : Char → Bool} {text : List Char} (h : encode p text = []) :
    text = [] := by
  cases text with
  | nil => rfl
  | cons c rest =>
    have hchar : encodeChar p c = [] := (List.append_eq_nil_iff.mp (encode_cons p c rest ▸ h)).1
    unfold encodeChar at hchar
    split at hchar
    · obtain ⟨byte, bytes, hbytes, -⟩ := exists_utf8EncodeChar c
      rw [hbytes] at hchar
      cases hchar
    · cases hchar

/-- What is written begins with a character that is kept or with an escape, and no dot is
escaped. -/
theorem encode_eq_cons {p : Char → Bool} (hp : IsEscaped p) {text written : List Char} {c : Char}
    (h : encode p text = c :: written) :
    (∃ rest, text = c :: rest ∧ written = encode p rest) ∨
      c = '%' ∧ ∃ high < 16, ∃ low < 16, ∃ more, high * 16 + low ≠ 0x2E ∧
        written = Hex.upperDigit high :: Hex.upperDigit low :: more := by
  cases text with
  | nil => cases h
  | cons d rest =>
    rw [encode_cons, encodeChar] at h
    split at h
    · rename_i hescaped
      obtain ⟨byte, bytes, hbytes, hdot⟩ := exists_utf8EncodeChar d
      rw [hbytes, List.flatMap_cons, escapeByte] at h
      injection h with hc hwritten
      have hbyte := byte.toNat_lt
      refine .inr ⟨hc.symm, byte.toNat / 16, by omega, byte.toNat % 16, by omega, _, ?_,
        hwritten.symm⟩
      intro hcode
      rw [hdot (by omega), hp.plain '.' (.inr (.inl rfl))] at hescaped
      cases hescaped
    · injection h with hc hwritten
      exact .inl ⟨rest, by rw [hc], hwritten.symm⟩

theorem makesNoDots_encode {p : Char → Bool} (hp : IsEscaped p) : MakesNoDots (encode p) where
  eq_nil text h := encode_eq_nil h
  dotRest? text rest h := by
    have hcodes : ∀ high < 16, ∀ low < 16, Hex.upperDigit high = '2' →
        (Hex.upperDigit low = 'e' ∨ Hex.upperDigit low = 'E') → high * 16 + low = 0x2E := by
      decide
    -- An escape is kept as three characters or written for a byte, which is no dot.
    have hescape : ∀ mark, (mark = 'e' ∨ mark = 'E') → encode p text = '%' :: '2' :: mark :: rest →
        ∃ before, text = '%' :: '2' :: mark :: before ∧ rest = encode p before := by
      intro mark hmark hwritten
      rcases encode_eq_cons hp hwritten with ⟨afterSign, rfl, hsign⟩ | ⟨-, high, hhigh, low, hlow,
        more, hne, heq⟩
      · rcases encode_eq_cons hp hsign.symm with ⟨afterFigure, rfl, hfigure⟩ | ⟨hfalse, -⟩
        · rcases encode_eq_cons hp hfigure.symm with ⟨before, rfl, hbefore⟩ | ⟨hfalse, -⟩
          · exact ⟨before, rfl, hbefore⟩
          · rcases hmark with rfl | rfl <;> cases hfalse
        · cases hfalse
      · injection heq with hfigure heq
        injection heq with hletter heq
        refine absurd (hcodes high hhigh low hlow hfigure.symm ?_) hne
        rwa [← hletter]
    generalize hwritten : encode p text = written at h
    unfold Url.dotRest? at h
    split at h
    · cases h
      rcases encode_eq_cons hp hwritten with ⟨before, rfl, hbefore⟩ | ⟨hfalse, -⟩
      · exact ⟨before, rfl, hbefore⟩
      · cases hfalse
    · cases h
      obtain ⟨before, rfl, hbefore⟩ := hescape 'e' (.inl rfl) hwritten
      exact ⟨before, rfl, hbefore⟩
    · cases h
      obtain ⟨before, rfl, hbefore⟩ := hescape 'E' (.inr rfl) hwritten
      exact ⟨before, rfl, hbefore⟩
    · cases h

end Percent

/-- What has been made small was that before unless it is a letter. -/
theorem eq_of_toLower_eq {c d : Char} (h : c.toLower = d) (hd : d.isLower = false) : c = d := by
  rcases toLower_eq_or_isLower c with hsame | hsmall
  · rw [← hsame, h]
  · rw [h, hd] at hsmall
    cases hsmall

theorem of_toLower_eq_e {c : Char} (h : c.toLower = 'e') : c = 'e' ∨ c = 'E' := by
  have hcapital : c.toUpper = 'E' := by
    rw [← Char.toUpper_toLower_eq_toUpper, h]
    rfl
  by_cases hsmall : c.isLower
  · have hsame := Char.toLower_eq_of_not_isUpper (Char.not_isUpper_of_isLower hsmall)
    exact .inl (hsame.symm.trans h)
  · exact .inr ((Char.toUpper_eq_of_not_isLower hsmall).symm.trans hcapital)

theorem makesNoDots_asciiLowercase : MakesNoDots asciiLowercase where
  eq_nil text h := List.map_eq_nil_iff.mp h
  dotRest? text rest h := by
    generalize hwritten : asciiLowercase text = written at h
    unfold asciiLowercase at hwritten
    unfold Url.dotRest? at h
    split at h
    · cases h
      obtain ⟨c, before, rfl, hc, hbefore⟩ := List.map_eq_cons_iff.mp hwritten
      rw [eq_of_toLower_eq hc rfl]
      exact ⟨before, rfl, hbefore.symm⟩
    · cases h
      obtain ⟨a, afterSign, rfl, ha, hsign⟩ := List.map_eq_cons_iff.mp hwritten
      obtain ⟨b, afterFigure, rfl, hb, hfigure⟩ := List.map_eq_cons_iff.mp hsign
      obtain ⟨c, before, rfl, hc, hbefore⟩ := List.map_eq_cons_iff.mp hfigure
      rw [eq_of_toLower_eq ha rfl, eq_of_toLower_eq hb rfl]
      rcases of_toLower_eq_e hc with rfl | rfl
      · exact ⟨before, rfl, hbefore.symm⟩
      · exact ⟨before, rfl, hbefore.symm⟩
    · -- A capital cannot have been made small.
      obtain ⟨a, afterSign, rfl, ha, hsign⟩ := List.map_eq_cons_iff.mp hwritten
      obtain ⟨b, afterFigure, rfl, hb, hfigure⟩ := List.map_eq_cons_iff.mp hsign
      obtain ⟨c, before, rfl, hc, -⟩ := List.map_eq_cons_iff.mp hfigure
      have hsmall := Char.toLower_toLower_eq_toLower c
      rw [hc] at hsmall
      exact absurd hsmall (by decide)
    · cases h

/-! ## Segments -/

/-- A segment as it is written in a path of the web. -/
structure IsSegment (segment : List Char) : Prop where
  escaped : ∀ c ∈ segment, Percent.pathSet c = false
  free : ∀ c ∈ segment, isSlash .special c = false
  isSingleDot : isSingleDot segment = false
  isDoubleDot : isDoubleDot segment = false

theorem IsSegment.nil : IsSegment [] := ⟨by simp, by simp, rfl, rfl⟩

theorem isSlash_of_isPlain {c : Char} (h : Percent.IsPlain c) : isSlash .special c = false :=
  h.of_ascii (P := fun c => isSlash .special c = false) (by decide)

theorem IsSegment.encode {segment : List Char} (hfree : ∀ c ∈ segment, isSlash .special c = false)
    (hsingle : Url.isSingleDot segment = false) (hdouble : Url.isDoubleDot segment = false) :
    IsSegment (Percent.encode Percent.pathSet segment) := by
  have hdots := Percent.makesNoDots_encode Percent.isEscaped_pathSet
  refine ⟨fun c hc => Percent.of_mem_encode Percent.isEscaped_pathSet hc, fun c hc => ?_, ?_, ?_⟩
  · exact (Percent.isPlain_or_of_mem_encode hc).elim isSlash_of_isPlain fun hkept => hfree c hkept.1
  · exact Bool.eq_false_iff.mpr fun hdot => by
      rw [hdots.isSingleDot hdot] at hsingle
      cases hsingle
  · exact Bool.eq_false_iff.mpr fun hdot => by
      rw [hdots.isDoubleDot hdot] at hdouble
      cases hdouble

/-- Made small a segment is one still. -/
theorem IsSegment.asciiLowercase {segment : List Char} (h : IsSegment segment) :
    IsSegment (asciiLowercase segment) where
  escaped := Percent.isEscaped_pathSet.asciiLowercase h.escaped
  free c hc := by
    obtain ⟨d, hd, rfl⟩ := List.mem_map.mp hc
    rcases toLower_eq_or_isLower d with hsame | hsmall
    · rw [hsame]
      exact h.free d hd
    · exact isSlash_of_isPlain (.inl (isAlphanum_of_isLower hsmall))
  isSingleDot := Bool.eq_false_iff.mpr fun hdot => by
    have hsingle := makesNoDots_asciiLowercase.isSingleDot hdot
    rw [h.isSingleDot] at hsingle
    cases hsingle
  isDoubleDot := Bool.eq_false_iff.mpr fun hdot => by
    have hdouble := makesNoDots_asciiLowercase.isDoubleDot hdot
    rw [h.isDoubleDot] at hdouble
    cases hdouble

/-! ## Ways through segments -/

/-- All that is on the way is written as segments are. -/
theorem isSegment_walk {above raw : List (List Char)} (habove : ∀ s ∈ above, IsSegment s)
    (hraw : ∀ s ∈ raw, ∀ c ∈ s, isSlash .special c = false) :
    ∀ s ∈ walk above raw, IsSegment s := by
  have hdrop : ∀ above : List (List Char), (∀ s ∈ above, IsSegment s) →
      ∀ s ∈ above.drop 1, IsSegment s :=
    fun above habove s hs => habove s (List.mem_of_mem_drop hs)
  have hencode : ∀ segment : List Char, (∀ c ∈ segment, isSlash .special c = false) →
      ¬ isDoubleDot segment → ¬ isSingleDot segment →
        IsSegment (Percent.encode Percent.pathSet segment) :=
    fun segment hfree hdouble hsingle =>
      .encode hfree (by simpa using hsingle) (by simpa using hdouble)
  have hreverse : ∀ segment above, IsSegment segment → (∀ s ∈ above, IsSegment s) →
      ∀ s ∈ (segment :: above).reverse, IsSegment s :=
    fun segment above hsegment habove s hs =>
      List.forall_mem_cons.mpr ⟨hsegment, habove⟩ s (List.mem_reverse.mp hs)
  fun_induction walk above raw with
  | case1 above => exact fun s hs => habove s (List.mem_reverse.mp hs)
  | case2 above last hdouble => exact hreverse _ _ .nil (hdrop above habove)
  | case3 above last hdouble hsingle => exact hreverse _ _ .nil habove
  | case4 above last hdouble hsingle =>
    exact hreverse _ _ (hencode last (hraw last List.mem_cons_self) hdouble hsingle) habove
  | case5 above segment rest hrest hdouble ih =>
    exact ih (hdrop above habove) fun s hs => hraw s (List.mem_cons_of_mem _ hs)
  | case6 above segment rest hrest hdouble hsingle ih =>
    exact ih habove fun s hs => hraw s (List.mem_cons_of_mem _ hs)
  | case7 above segment rest hrest hdouble hsingle ih =>
    have hsegment := hencode segment (hraw segment List.mem_cons_self) hdouble hsingle
    exact ih (List.forall_mem_cons.mpr ⟨hsegment, habove⟩) fun s hs =>
      hraw s (List.mem_cons_of_mem _ hs)

theorem walk_ne_nil {above raw : List (List Char)} (h : raw ≠ []) : walk above raw ≠ [] := by
  fun_induction walk above raw with
  | case1 above => exact absurd rfl h
  | case2 above last hdouble => simp
  | case3 above last hdouble hsingle => simp
  | case4 above last hdouble hsingle => simp
  | case5 above segment rest hrest hdouble ih => exact ih fun hnil => by simp [hnil] at hrest
  | case6 above segment rest hrest hdouble hsingle ih =>
    exact ih fun hnil => by simp [hnil] at hrest
  | case7 above segment rest hrest hdouble hsingle ih =>
    exact ih fun hnil => by simp [hnil] at hrest

/-- Segments that are written lead to themselves. -/
theorem walk_eq_append {above segments : List (List Char)} (h : ∀ s ∈ segments, IsSegment s) :
    walk above segments = above.reverse ++ segments := by
  induction segments generalizing above with
  | nil => simp [walk]
  | cons segment rest ih =>
    have hsegment := h segment List.mem_cons_self
    have hrest := fun s hs => h s (List.mem_cons_of_mem _ hs)
    have hsame := Percent.encode_eq_self hsegment.escaped
    cases rest with
    | nil => simp [walk, hsegment.isSingleDot, hsegment.isDoubleDot, hsame]
    | cons next more =>
      simp [walk, hsegment.isSingleDot, hsegment.isDoubleDot, hsame, ih hrest]

/-- The path that a text leads to. -/
theorem isSegment_pathFrom {above : List (List Char)} (habove : ∀ s ∈ above, IsSegment s)
    (text : List Char) :
    pathFrom .special above text ≠ [] ∧ ∀ s ∈ pathFrom .special above text, IsSegment s := by
  refine ⟨walk_ne_nil fun hnil => ?_, isSegment_walk habove fun s hs => not_mem_fields _ text s hs⟩
  have hlength := length_fields (isSlash .special) text
  rw [hnil] at hlength
  cases hlength

theorem fields_renderSegments {segments : List (List Char)} (hne : segments ≠ [])
    (h : ∀ s ∈ segments, ∀ c ∈ s, isSlash .special c = false) :
    fields (isSlash .special) ((Path.renderSegments segments).drop 1) = segments := by
  induction segments with
  | nil => exact absurd rfl hne
  | cons segment rest ih =>
    have hsegment := h segment List.mem_cons_self
    have hrender : (Path.renderSegments (segment :: rest)).drop 1 =
        segment ++ Path.renderSegments rest := by
      simp [Path.renderSegments]
    rw [hrender]
    cases rest with
    | nil => simpa [Path.renderSegments] using fields_eq_singleton _ segment hsegment
    | cons next more =>
      have hmore := ih (List.cons_ne_nil _ _) fun s hs => h s (List.mem_cons_of_mem _ hs)
      have hslash : Path.renderSegments (next :: more) =
          '/' :: (Path.renderSegments (next :: more)).drop 1 := by
        simp [Path.renderSegments]
      rw [hslash, fields_append_cons hsegment (by decide), hmore]

/-- What is written for segments is read as these segments. -/
theorem pathAfterHost_renderSegments {segments : List (List Char)} (hne : segments ≠ [])
    (h : ∀ s ∈ segments, IsSegment s) :
    pathAfterHost .special (Path.renderSegments segments) = segments := by
  show walk [] (fields (isSlash .special) ((Path.renderSegments segments).drop 1)) = segments
  rw [fields_renderSegments hne fun s hs => (h s hs).free, walk_eq_append h]
  rfl

theorem pathAfterHost_nil : pathAfterHost .special [] = [[]] := rfl

end LinkDigest.Url
