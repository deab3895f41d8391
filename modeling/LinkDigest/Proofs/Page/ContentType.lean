import LinkDigest.Page.Basic
import LinkDigest.Proofs.Text.Charset
import LinkDigest.Proofs.Text.Search

/-!
# The character set a page declares

The name of a character set stands behind the first mark, whatever stands before that and
behind the name: the mark shares no sign with what may stand around a name, and only its
first letter is one that a mark begins with. So the page is written in the set that the name
is a label of, and in UTF-8 where the name is no label or there is no mark.
-/

namespace LinkDigest

open LinkDigest.Text

namespace ContentType

/-- Whether a text can be the name of a character set: not empty, of one piece, and
without a mark. -/
structure IsName (name : List Char) : Prop where
  ne_nil : name ≠ []
  endsLabel : ∀ c ∈ name, endsLabel c = false
  isBlank : ∀ c ∈ name, isBlank c = false
  holdsNoMark : ¬ charsetMark <:+: asciiLowercase name

/-- Whether a content type names a character set behind its first mark, with or without
quotes, up to what ends a name or to its end. Its letters may be of either case. -/
inductive Names (contentType name : List Char) : Prop
  | intro {before quotes after : List Char}
    (written : asciiLowercase contentType =
      asciiLowercase (before ++ charsetMark ++ quotes ++ name ++ after))
    (first : ¬ charsetMark <:+: asciiLowercase before)
    (opens : ∀ c ∈ quotes, isQuote c)
    (isName : IsName name)
    (closes : ∀ c ∈ after.head?, ContentType.endsLabel c)

/-! ## Signs in small letters -/

theorem isQuote_toLower : ∀ c : Char, isQuote c.toLower = isQuote c := apply_toLower (by decide)

theorem endsLabel_toLower : ∀ c : Char, endsLabel c.toLower = endsLabel c :=
  apply_toLower (by decide)

theorem endsLabel_of_isQuote {c : Char} (h : isQuote c) : endsLabel c := by
  simp [endsLabel, h]

theorem IsName.asciiLowercase {name : List Char} (h : IsName name) :
    IsName (asciiLowercase name) where
  ne_nil := fun hnil => h.ne_nil (List.map_eq_nil_iff.mp hnil)
  endsLabel := forall_asciiLowercase endsLabel_toLower h.endsLabel
  isBlank := forall_asciiLowercase isBlank_toLower h.isBlank
  holdsNoMark := by
    rw [asciiLowercase_asciiLowercase]
    exact h.holdsNoMark

/-! ## Around the mark -/

theorem endsLabel_of_mem_charsetMark : ∀ c ∈ charsetMark, endsLabel c = false := by
  have hmark : charsetMark.all (!endsLabel ·) := by decide
  exact fun c hc => Bool.not_eq_true' _ |>.mp (List.all_eq_true.mp hmark c hc)

/-- Nothing that may stand around a name is part of the mark. -/
theorem not_mem_charsetMark {c : Char} (h : endsLabel c) : c ∉ charsetMark := fun hmem => by
  rw [endsLabel_of_mem_charsetMark c hmem] at h
  cases h

/-- The first mark is found behind a text that holds none. -/
theorem cut?_charsetMark {before : List Char} (h : ¬ charsetMark <:+: before) (rest : List Char) :
    cut? charsetMark (before ++ (charsetMark ++ rest)) = some (before, rest) := by
  have hfirst : ∀ c ∈ (charsetMark ++ rest).head?, c ∉ charsetMark.tail := by
    intro c hc
    obtain rfl : 'c' = c := Option.some.inj hc
    decide
  rw [cut?_append h hfirst, cut?_mark_append (by decide)]
  simp

/-- Up to the next mark stands what holds none, and of what follows that nothing but a part
that begins with the same sign. -/
theorem exists_stretch {front after : List Char} (hfront : ¬ charsetMark <:+: front)
    (hafter : ∀ c ∈ after.head?, endsLabel c) :
    ∃ more, ((cut? charsetMark (front ++ after)).map Prod.fst).getD (front ++ after) =
      front ++ more ∧ ∀ c ∈ more.head?, endsLabel c := by
  rw [cut?_append hfront fun c hc hmem =>
    not_mem_charsetMark (hafter c hc) (List.mem_of_mem_tail hmem)]
  cases hcut : cut? charsetMark after with
  | none => exact ⟨after, rfl, hafter⟩
  | some parts =>
    obtain ⟨more, rest⟩ := parts
    refine ⟨more, rfl, fun c hc => hafter c ?_⟩
    rw [cut?_eq_some hcut, List.append_assoc, List.head?_append, hc]
    rfl

/-- Between quotes and what ends it a name is read as it is. -/
theorem takeWhile_dropWhile_name {quotes name more : List Char} (hquotes : ∀ c ∈ quotes, isQuote c)
    (hname : IsName name) (hmore : ∀ c ∈ more.head?, endsLabel c) :
    ((quotes ++ name ++ more).dropWhile isQuote).takeWhile (!endsLabel ·) = name := by
  have hhead : (name ++ more).dropWhile isQuote = name ++ more := by
    refine dropWhile_of_head fun c hc => Bool.eq_false_iff.mpr fun hquote => ?_
    rw [List.head?_append_of_ne_nil _ hname.ne_nil] at hc
    have hend := hname.endsLabel c (List.mem_of_head? hc)
    rw [endsLabel_of_isQuote hquote] at hend
    cases hend
  have hstop : more.takeWhile (!endsLabel ·) = [] := by
    cases more with
    | nil => rfl
    | cons c more => rw [List.takeWhile_cons_of_neg (by simp [hmore c rfl])]
  rw [List.append_assoc, List.dropWhile_append_of_pos hquotes, hhead,
    List.takeWhile_append_of_pos fun c hc => by simp [hname.endsLabel c hc], hstop,
    List.append_nil]

/-! ## The name that is read -/

theorem label?_eq (contentType : List Char) : label? contentType =
    (cut? charsetMark (asciiLowercase contentType)).bind fun parts =>
      let stretch := ((cut? charsetMark parts.2).map Prod.fst).getD parts.2
      let name := trim ((stretch.dropWhile isQuote).takeWhile (!endsLabel ·))
      if name.isEmpty then none else some name := by
  unfold label?
  cases cut? charsetMark (asciiLowercase contentType) with
  | none => rfl
  | some parts =>
    obtain ⟨before, rest⟩ := parts
    simp only [Option.bind_some]
    cases cut? charsetMark rest with
    | none => rfl
    | some parts => rfl

/-- The name is read in small letters. -/
theorem label?_of_names {contentType name : List Char} (h : Names contentType name) :
    label? contentType = some (asciiLowercase name) := by
  obtain @⟨before, quotes, after, hwritten, hfirst, hopens, hname, hcloses⟩ := h
  have hquotes : ∀ c ∈ asciiLowercase quotes, isQuote c := forall_asciiLowercase isQuote_toLower hopens
  have hlower := hname.asciiLowercase
  have hafter := head?_asciiLowercase endsLabel_toLower hcloses
  have hmark : asciiLowercase charsetMark = charsetMark := by decide
  have hfront : ¬ charsetMark <:+: asciiLowercase quotes ++ asciiLowercase name := fun hmem =>
    hname.holdsNoMark <| infix_of_infix_append (by decide)
      (fun c hc => not_mem_charsetMark (endsLabel_of_isQuote (hquotes c hc))) hmem
  obtain ⟨more, hstretch, hmore⟩ := exists_stretch hfront hafter
  have hfound : cut? charsetMark (asciiLowercase contentType) = some (asciiLowercase before,
      asciiLowercase quotes ++ asciiLowercase name ++ asciiLowercase after) := by
    rw [hwritten, ← cut?_charsetMark hfirst]
    simp only [asciiLowercase_append, hmark, List.append_assoc]
  have htrim : trim (asciiLowercase name) = asciiLowercase name := strip_eq_self hlower.isBlank
  rw [label?_eq, hfound, Option.bind_some]
  simp only [hstretch, takeWhile_dropWhile_name hquotes hlower hmore, htrim]
  rw [if_neg (by simpa using hlower.ne_nil)]

theorem label?_eq_none {contentType : List Char}
    (h : ¬ charsetMark <:+: asciiLowercase contentType) : label? contentType = none := by
  rw [label?_eq, cut?_eq_none h]
  rfl

/-- What names no set is read as UTF-8. -/
theorem charset_of_names {contentType name : List Char} (h : Names contentType name) :
    (∀ set : Charset, set.IsLabel name → charset (some contentType) = set) ∧
    ((∀ set : Charset, ¬ set.IsLabel name) → charset (some contentType) = .utf8) := by
  have hread : ∀ set, Charset.ofLabel? (String.ofList (asciiLowercase name)) = some set ↔
      set.IsLabel name := by
    obtain ⟨-, -, -, hname, -⟩ := h
    intro set
    rw [Charset.ofLabel?_eq_some_iff fun c hc =>
      isAsciiBlank_eq_false (hname.asciiLowercase.isBlank c hc), Charset.isLabel_asciiLowercase]
  unfold charset
  rw [Option.bind_some, label?_of_names h, Option.bind_some]
  constructor
  · intro set hset
    rw [(hread set).mpr hset]
    rfl
  · intro hnone
    rw [Option.eq_none_iff_forall_ne_some.mpr fun set hset => hnone set ((hread set).mp hset)]
    rfl

end ContentType

/-- A page is written in the character set whose label its content type names, and in UTF-8 if
what is named is no label or if nothing is named. -/
theorem Page.charset_declared {page : Page} {contentType : List Char}
    (h : page.contentType = some contentType) :
    (∀ name, ContentType.Names contentType name →
      (∀ set : Charset, set.IsLabel name → page.charset = set) ∧
      ((∀ set : Charset, ¬ set.IsLabel name) → page.charset = .utf8)) ∧
    (¬ ContentType.charsetMark <:+: asciiLowercase contentType → page.charset = .utf8) := by
  unfold Page.charset
  rw [h]
  refine ⟨fun name hname => ContentType.charset_of_names hname, fun hnone => ?_⟩
  rw [ContentType.charset, Option.bind_some, ContentType.label?_eq_none hnone]
  rfl

/-- Of two names the first one counts, and of the quotes around it none. -/
theorem Page.charset_declared_twice :
    let contentType := "Text/HTML; CharSet=\"Shift_JIS\"; charset=koi8-r".toList
    let page : Page := ⟨some contentType, [], .complete⟩
    page.contentType = some contentType ∧
    ContentType.Names contentType "Shift_JIS".toList ∧
    Charset.shiftJis.IsLabel "Shift_JIS".toList ∧ page.charset = .shiftJis := by
  intro contentType page
  have hnames : ContentType.Names contentType "Shift_JIS".toList :=
    @ContentType.Names.intro _ _ "Text/HTML; ".toList ['"'] "\"; charset=koi8-r".toList
      (by decide +kernel) (by decide +kernel) (by simp; decide)
      ⟨by decide, by simp; decide, by simp; decide, by decide +kernel⟩ (by simp; decide)
  have hlabel : Charset.shiftJis.IsLabel "Shift_JIS".toList := by
    refine ⟨["csshiftjis", "ms932", "ms_kanji", "shift-jis", "shift_jis", "sjis", "windows-31j",
      "x-sjis"], by decide +kernel, by decide +kernel⟩
  exact ⟨rfl, hnames, hlabel, ((Page.charset_declared rfl).1 _ hnames).1 _ hlabel⟩

end LinkDigest
