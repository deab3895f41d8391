import LinkDigest.Proofs.Filter.Expression

/-!
# Lists of keywords

A reader writes keywords between commas and line ends. What a filter then ignores is said by
the keywords alone: neither their order, nor how often they are written, nor what a sign in
them means elsewhere makes a difference.
-/

namespace LinkDigest

open LinkDigest.Text

namespace Keyword

/-- Whether a text lists a keyword: as a piece that is not blank, without the blanks around
it. -/
def Listed (text keyword : List Char) : Prop :=
  keyword ≠ [] ∧ ∃ piece, IsPiece isSeparator text piece ∧ trim piece = keyword

theorem mem_written_iff {text keyword : List Char} :
    keyword ∈ written text ↔ Listed text keyword := by
  simp only [written, List.mem_filter, List.mem_map, mem_fields_iff, Bool.not_eq_true',
    List.isEmpty_eq_false_iff]
  exact and_comm

theorem written_eq_nil_iff {text : List Char} :
    written text = [] ↔ ∀ piece, IsPiece isSeparator text piece → trim piece = [] := by
  rw [List.eq_nil_iff_forall_not_mem]
  simp only [mem_written_iff, Listed, not_and]
  constructor
  · intro h piece hpiece
    by_contra hne
    exact h _ hne ⟨piece, hpiece, rfl⟩
  · rintro h keyword hne ⟨piece, hpiece, rfl⟩
    exact hne (h piece hpiece)

/-! ## What becomes of a list -/

/-- Whether a keyword is a run of stars. -/
def IsWild (keyword : List Char) : Prop := ∀ c ∈ keyword, c = '*'

variable {fits : List (List Char) → Bool}

/-- A list is refused for its first keyword of stars, or else for its size, or else used. -/
theorem list?_cases (text : List Char) (fits : List (List Char) → Bool) :
    (∃ keyword, Listed text keyword ∧ IsWild keyword ∧
      list? text fits = .error (.wildcardOnly (String.ofList keyword))) ∨
    (∀ keyword, Listed text keyword → ¬ IsWild keyword) ∧
      (fits (written text) = false ∧ list? text fits = .error .tooLarge ∨
        list? text fits = .ok ((written text).map ofText)) := by
  simp only [← mem_written_iff]
  unfold list?
  dsimp only
  split
  · rename_i keyword hfind
    have hwild := List.find?_some hfind
    exact .inl ⟨keyword, List.mem_of_find?_eq_some hfind, by simpa [IsWild] using hwild, rfl⟩
  · rename_i hfind
    have hnone : ∀ keyword ∈ written text, ¬ IsWild keyword := by
      simpa [IsWild, List.find?_eq_none] using hfind
    refine .inr ⟨hnone, ?_⟩
    split
    · exact .inr rfl
    · rename_i hlarge
      exact .inl ⟨by simp_all, rfl⟩

theorem exists_wildcardOnly_iff {text : List Char} (fits : List (List Char) → Bool) :
    (∃ word, list? text fits = .error (.wildcardOnly word)) ↔
      ∃ keyword, Listed text keyword ∧ IsWild keyword := by
  constructor
  · rintro ⟨word, h⟩
    rcases list?_cases text fits with ⟨keyword, hlisted, hwild, -⟩ | ⟨-, ⟨-, heq⟩ | heq⟩
    · exact ⟨keyword, hlisted, hwild⟩
    · cases heq.symm.trans h
    · cases heq.symm.trans h
  · rintro ⟨keyword, hlisted, hwild⟩
    rcases list?_cases text fits with ⟨first, -, -, heq⟩ | ⟨hnone, -⟩
    · exact ⟨_, heq⟩
    · exact absurd hwild (hnone keyword hlisted)

/-- Keywords that can be used are those that are written. -/
theorem eq_of_list?_eq_ok {text : List Char} {keywords : List Keyword}
    (h : list? text fits = .ok keywords) : keywords = (written text).map ofText := by
  rcases list?_cases text fits with ⟨keyword, -, -, heq⟩ | ⟨-, ⟨-, heq⟩ | heq⟩
  · cases heq.symm.trans h
  · cases heq.symm.trans h
  · exact Except.ok.inj (h.symm.trans heq)

theorem list?_eq_nil_iff {text : List Char} (fits : List (List Char) → Bool) :
    list? text fits = .ok [] ↔ ∀ piece, IsPiece isSeparator text piece → trim piece = [] := by
  rw [← written_eq_nil_iff]
  constructor
  · intro h
    exact List.map_eq_nil_iff.mp (eq_of_list?_eq_ok h).symm
  · intro h
    rw [list?, h]
    rfl

end Keyword

/-! ## What is ignored -/

namespace Filter

open Keyword

variable {filter after : Filter} {text : List Char} {fits : List (List Char) → Bool}

theorem withIgnored_eq_ok_iff :
    filter.withIgnored text fits = .ok after ↔
      ∃ keywords, list? text fits = .ok keywords ∧ after = { filter with ignored := keywords } := by
  unfold withIgnored
  split
  · rename_i keywords hlist
    simp only [Except.ok.injEq, hlist, exists_eq_left', eq_comm]
  · rename_i error hlist
    simp [hlist]

/-- A link is ignored for one of the keywords that are listed. -/
theorem isIgnored_iff (h : filter.withIgnored text fits = .ok after) {url : List Char} :
    after.isIgnored url ↔ ∃ keyword, Listed text keyword ∧ (ofText keyword).occursIn url := by
  obtain ⟨keywords, hlist, rfl⟩ := withIgnored_eq_ok_iff.mp h
  rw [eq_of_list?_eq_ok hlist]
  simp only [isIgnored, List.any_map, List.any_eq_true, mem_written_iff, Function.comp_apply]

/-- On one line a link is ignored just when a listed keyword stands for a part of it. -/
theorem isIgnored_iff_within (h : filter.withIgnored text fits = .ok after) {url : List Char}
    (hline : '\n' ∉ url) :
    after.isIgnored url ↔ ∃ keyword, Listed text keyword ∧ Within keyword url := by
  rw [isIgnored_iff h]
  simp only [occursIn_ofText_iff hline]

theorem exists_withIgnored_eq_wildcardOnly_iff :
    (∃ word, filter.withIgnored text fits = .error (.keywords (.wildcardOnly word))) ↔
      ∃ keyword, Listed text keyword ∧ IsWild keyword := by
  rw [← exists_wildcardOnly_iff fits]
  unfold withIgnored
  split
  · rename_i hlist
    simp [hlist]
  · rename_i hlist
    simp [hlist]

theorem withIgnored_eq_none_iff :
    filter.withIgnored text fits = .ok { filter with ignored := [] } ↔
      ∀ piece, IsPiece isSeparator text piece → trim piece = [] := by
  rw [← list?_eq_nil_iff fits, withIgnored_eq_ok_iff]
  constructor
  · rintro ⟨keywords, hlist, heq⟩
    obtain rfl : [] = keywords := congrArg Filter.ignored heq
    exact hlist
  · intro hlist
    exact ⟨[], hlist, rfl⟩

/-- The pattern of the keywords matches what is ignored for them. -/
theorem exists_matcher? (hlisted : ∃ keyword, Listed text keyword) :
    ∃ m, matcher? text = some m ∧ ∀ url, '\n' ∉ url →
      (m.isMatch url ↔ ∃ keyword, Listed text keyword ∧ Within keyword url) := by
  simp only [← mem_written_iff] at hlisted ⊢
  obtain ⟨keyword, hkeyword⟩ := hlisted
  exact exists_ofCaseless?_expressions (List.ne_nil_of_mem hkeyword)

/-- Keywords are refused just if one of them is a run of stars, or else they are too large in
all. Without any nothing is ignored. A link of one line is ignored just when a keyword stands
for a part of it, stars for any run and other characters for themselves in either case; the
pattern the keywords write says the same. It makes no difference in which order and how often
they are listed. -/
theorem withIgnored_globs (filter : Filter) (text : List Char)
    (fits : List (List Char) → Bool) :
    ((∃ word, filter.withIgnored text fits = .error (.keywords (.wildcardOnly word))) ↔
      ∃ keyword, Listed text keyword ∧ ∀ c ∈ keyword, c = '*') ∧
    (filter.withIgnored text fits = .ok { filter with ignored := [] } ↔
      ∀ piece, IsPiece isSeparator text piece → trim piece = []) ∧
    ((∀ keyword, Listed text keyword → ∃ c ∈ keyword, c ≠ '*') →
      fits (written text) →
      ∃ after, filter.withIgnored text fits = .ok after ∧ ∀ url, '\n' ∉ url →
        (after.isIgnored url ↔ ∃ keyword, Listed text keyword ∧
          ∃ found, found <:+: url ∧ Globs keyword found)) ∧
    ((∃ keyword, Listed text keyword) →
      ∃ m, matcher? text = some m ∧ ∀ url, '\n' ∉ url →
        (m.isMatch url ↔ ∃ keyword, Listed text keyword ∧
          ∃ found, found <:+: url ∧ Globs keyword found)) ∧
    ∀ other, (∀ keyword, Listed other keyword ↔ Listed text keyword) →
      ∀ before after, filter.withIgnored text fits = .ok before →
        filter.withIgnored other fits = .ok after →
          ∀ url, before.isIgnored url = after.isIgnored url := by
  refine ⟨exists_withIgnored_eq_wildcardOnly_iff, withIgnored_eq_none_iff, ?_, exists_matcher?, ?_⟩
  · intro hnone hfits
    rcases list?_cases text fits with ⟨keyword, hlisted, hwild, -⟩ | ⟨-, ⟨hlarge, -⟩ | hlist⟩
    · obtain ⟨c, hc, hne⟩ := hnone keyword hlisted
      exact absurd (hwild c hc) hne
    · exact absurd hfits (by simp [hlarge])
    · have hafter : filter.withIgnored text fits =
          .ok { filter with ignored := (written text).map ofText } :=
        withIgnored_eq_ok_iff.mpr ⟨_, hlist, rfl⟩
      exact ⟨_, hafter, fun url hline => isIgnored_iff_within hafter hline⟩
  · intro other hsame before after hbefore hafter url
    rw [Bool.eq_iff_iff, isIgnored_iff hbefore, isIgnored_iff hafter]
    simp only [hsame]

/-- A dot stands for itself and a star for any run, and so it is with the same keywords in
another order, one of them twice. -/
theorem withIgnored_globs_dotAndStar :
    ∃ before after m,
      Filter.default.withIgnored "ads.example,feeds*test".toList = .ok before ∧
      Filter.default.withIgnored "feeds*test\n ads.example ,feeds*test".toList = .ok after ∧
      matcher? "ads.example,feeds*test".toList = some m ∧
      (before.isIgnored "http://FEEDS.ads/Test".toList ∧ m.isMatch "http://FEEDS.ads/Test".toList) ∧
      (¬ before.isIgnored "http://adsxexample/".toList ∧
        ¬ m.isMatch "http://adsxexample/".toList) ∧
      ∀ url, before.isIgnored url = after.isIgnored url := by
  obtain ⟨-, -, hignored, hmatcher, hsame⟩ :=
    withIgnored_globs Filter.default "ads.example,feeds*test".toList Keyword.fits
  have hwritten : written "ads.example,feeds*test".toList =
      ["ads.example".toList, "feeds*test".toList] := by decide +kernel
  have hagain : written "feeds*test\n ads.example ,feeds*test".toList =
      ["feeds*test".toList, "ads.example".toList, "feeds*test".toList] := by decide +kernel
  have hbefore : Filter.default.withIgnored "ads.example,feeds*test".toList =
      .ok { Filter.default with
        ignored := ["ads.example".toList, "feeds*test".toList].map ofText } :=
    withIgnored_eq_ok_iff.mpr ⟨_, by rw [list?, hwritten]; rfl, rfl⟩
  have hafter : Filter.default.withIgnored "feeds*test\n ads.example ,feeds*test".toList =
      .ok { Filter.default with
        ignored := ["feeds*test".toList, "ads.example".toList, "feeds*test".toList].map ofText } :=
    withIgnored_eq_ok_iff.mpr ⟨_, by rw [list?, hagain]; rfl, rfl⟩
  simp only [← mem_written_iff, hwritten, List.mem_pair, forall_eq_or_imp, forall_eq]
    at hignored hmatcher hsame
  obtain ⟨before, hbefore', hwithin⟩ :=
    hignored ⟨⟨'a', by decide, by decide⟩, 'f', by decide, by decide⟩ (by decide)
  have heq := Except.ok.inj (hbefore'.symm.trans hbefore)
  have hheld : before.isIgnored "http://FEEDS.ads/Test".toList := by
    rw [heq]
    decide +kernel
  have hfree : ¬ before.isIgnored "http://adsxexample/".toList := by
    rw [heq]
    decide +kernel
  obtain ⟨m, hm, hmatch⟩ := hmatcher ⟨_, .inl rfl⟩
  refine ⟨before, _, m, hbefore', hafter, hm, ⟨hheld, ?_⟩, ⟨hfree, ?_⟩, ?_⟩
  · exact (hmatch _ (by decide)).mpr ((hwithin _ (by decide)).mp hheld)
  · exact fun hmatched => hfree ((hwithin _ (by decide)).mpr ((hmatch _ (by decide)).mp hmatched))
  · refine hsame _ (fun keyword => ?_) _ _ hbefore' hafter
    rw [hagain, List.mem_cons, List.mem_pair]
    exact ⟨fun h => h.elim .inr id, .inr⟩

end Filter

end LinkDigest
