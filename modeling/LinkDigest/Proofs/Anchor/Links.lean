import LinkDigest.Proofs.Anchor.Tag
import LinkDigest.Proofs.Text.Blank

/-!
# The links of a text

A text with markup is made of the tags of anchors and of what stands between them, and each
tag gives one link. Links that lead to no page are left out; all others are given in order
and without the blanks around them. A link that is written in quotes comes back as it is
written if it holds no quote of either kind.
-/

namespace LinkDigest.Anchor

open LinkDigest.Text

/-! ## What is left out -/

/-- Whether a link leads to no page: it is empty, a place on its own page, or begins
with a scheme that no page has, in letters of either case. -/
def IsLeftOut (link : List Char) : Prop :=
  link = [] ∨ link.head? = some '#' ∨
    ∃ scheme ∈ ["mailto:", "javascript:", "tel:", "data:"], ∃ written rest,
      asciiLowercase written = scheme.toList ∧ link = written ++ rest

theorem isPrefixOf_asciiLowercase_iff {word link : List Char} :
    word.isPrefixOf (asciiLowercase link) ↔
      ∃ written rest, asciiLowercase written = word ∧ link = written ++ rest := by
  rw [List.isPrefixOf_iff_prefix]
  constructor
  · rintro ⟨lower, heq⟩
    obtain ⟨written, rest, rfl, hwritten, -⟩ := List.map_eq_append_iff.mp heq.symm
    exact ⟨written, rest, hwritten, rfl⟩
  · rintro ⟨written, rest, rfl, rfl⟩
    rw [asciiLowercase, asciiLowercase, List.map_append]
    exact List.prefix_append _ _

theorem leadsToPage_iff {link : List Char} : leadsToPage link ↔ ¬ IsLeftOut link := by
  simp only [leadsToPage, IsLeftOut, skippedSchemes, Bool.and_eq_true, Bool.not_eq_true',
    List.isEmpty_eq_false_iff, bne_iff_ne, List.any_eq_false, isPrefixOf_asciiLowercase_iff,
    not_or, not_exists, not_and, and_assoc]

instance : DecidablePred IsLeftOut := fun link =>
  decidable_of_iff (leadsToPage link = false) (by
    rw [← Bool.not_eq_true, leadsToPage_iff, Classical.not_not])

/-- The values of all tags are the links, but for blanks and for what is left out. -/
theorem links_eq (html : List Char) :
    links html = ((values html).map trim).filter (¬ IsLeftOut ·) :=
  List.filter_congr fun link _ => by
    rw [Bool.eq_iff_iff, leadsToPage_iff, decide_eq_true_eq]

/-! ## Tags one after another -/

/-- Whether a whole tag stands in a text. -/
def HoldsTag (text : List Char) : Prop :=
  ∃ before written value after, IsTag written value ∧ text = before ++ (written ++ after)

/-- A tag of a text, and what stands between it and the tag before. -/
structure Found where
  gap : List Char
  written : List Char
  value : List Char
  holdsNoTag : ¬ HoldsTag gap
  isTag : IsTag written value

/-- What a tag takes of the text. -/
def Found.text (found : Found) : List Char := found.gap ++ found.written

theorem not_holdsTag_nil : ¬ HoldsTag [] := by
  rintro ⟨before, written, value, after, htag, hnil⟩
  cases htag
  simp at hnil

/-- Where no tag is read none begins, so that only what follows can hold one. -/
theorem not_holdsTag_cons {c : Char} {text : List Char} (rest : List Char)
    (hnone : anchor? (c :: (text ++ rest)) = none) (h : ¬ HoldsTag text) :
    ¬ HoldsTag (c :: text) := by
  rintro ⟨before, written, value, after, htag, heq⟩
  cases before with
  | nil =>
    have hsome := isSome_anchor?_append htag (after ++ rest)
    rw [← List.append_assoc, ← List.nil_append (written ++ after), ← heq, List.cons_append,
      hnone] at hsome
    cases hsome
  | cons d before =>
    exact h ⟨before, written, value, after, htag, (List.cons.inj heq).2⟩

/-- A text is made of tags and of what stands between them, and the tags give its values. -/
theorem exists_found (html : List Char) : ∃ (found : List Found) (tail : List Char),
    html = found.flatMap Found.text ++ tail ∧ ¬ HoldsTag tail ∧
      values html = found.map Found.value := by
  fun_induction values html with
  | case1 html value rest hfound ih =>
    obtain ⟨written, htag, rfl⟩ := exists_isTag hfound
    obtain ⟨found, tail, rfl, htail, hvalues⟩ := ih
    refine ⟨⟨[], written, value, not_holdsTag_nil, htag⟩ :: found, tail, ?_, htail, ?_⟩
    · simp [Found.text]
    · rw [hvalues, List.map_cons]
  | case2 hnone => exact ⟨[], [], rfl, not_holdsTag_nil, rfl⟩
  | case3 c rest hnone ih =>
    obtain ⟨found, tail, rfl, htail, hvalues⟩ := ih
    cases found with
    | nil =>
      rw [List.flatMap_nil, List.nil_append] at hnone hvalues ⊢
      refine ⟨[], c :: tail, rfl, not_holdsTag_cons [] ?_ htail, hvalues⟩
      rwa [List.append_nil]
    | cons first found =>
      obtain ⟨gap, written, value, hgap, htag⟩ := first
      have hcons : ¬ HoldsTag (c :: gap) := by
        refine not_holdsTag_cons (written ++ (found.flatMap Found.text ++ tail)) ?_ hgap
        simpa [Found.text] using hnone
      exact ⟨⟨c :: gap, written, value, hcons, htag⟩ :: found, tail, rfl, htail, hvalues⟩

/-- The links of any text are the values of tags that stand in it one after another, trimmed
and in order, without those that lead to no page. No other tag stands between these tags or
behind them. No link holds a quote. -/
theorem links_found (html : List Char) :
    ∃ (found : List Found) (tail : List Char),
      html = found.flatMap Found.text ++ tail ∧ ¬ HoldsTag tail ∧
      links html = ((found.map Found.value).map trim).filter (¬ IsLeftOut ·) ∧
      ∀ link ∈ links html, ¬ IsLeftOut link ∧ ∀ c ∈ link, isQuote c = false := by
  obtain ⟨found, tail, hhtml, htail, hvalues⟩ := exists_found html
  have hlinks := links_eq html
  rw [hvalues] at hlinks
  refine ⟨found, tail, hhtml, htail, hlinks, fun link hlink => ?_⟩
  rw [hlinks, List.mem_filter, decide_eq_true_eq] at hlink
  refine ⟨hlink.2, fun c hc => ?_⟩
  simp only [List.map_map, List.mem_map, Function.comp] at hlink
  obtain ⟨⟨one, -, rfl⟩, -⟩ := hlink
  exact one.isTag.isQuote_eq_false c (mem_of_mem_trim hc)

/-! ## Links that are written -/

/-- A text without tags, and the tag of an anchor with a value in quotes of one kind that may
hold quotes of the other. -/
structure Piece where
  before : List Char
  blank : Char
  attributes : List Char
  quote : Char
  value : List Char
  opensNoTag : '<' ∉ before
  isBlank_blank : isBlank blank
  endsNoTag : '>' ∉ attributes
  holdsNoWord : ¬ linkWord <:+: asciiLowercase attributes
  isQuote_quote : isQuote quote
  value_ne_nil : value ≠ []
  quote_not_mem : quote ∉ value

namespace Piece

/-- The text of a piece. -/
def text (piece : Piece) : List Char :=
  piece.before ++ '<' :: 'a' :: piece.blank :: (piece.attributes ++
    (linkWord ++ '=' :: piece.quote :: (piece.value ++ [piece.quote, '>'])))

/-- What is read of the value: up to the first quote of either kind. -/
def read (piece : Piece) : List Char := piece.value.takeWhile (!isQuote ·)

/-- What is not, from that quote on. -/
def unread (piece : Piece) : List Char := piece.value.dropWhile (!isQuote ·)

end Piece

/-- Only the first letter of the word is an `h`. -/
theorem linkWord_ne_h : ∀ place < 4, 0 < place → linkWord[place]? ≠ some 'h' := by decide

/-- No attribute begins before the word where the word does not stand. -/
theorem attribute?_back {attributes back rest : List Char}
    (hword : ¬ linkWord <:+: asciiLowercase attributes) (hback : back <:+ attributes)
    (hne : back ≠ []) : attribute? (back ++ (linkWord ++ rest)) = none := by
  have hnone : afterWord? linkWord (back ++ (linkWord ++ rest)) = none := by
    rw [Option.eq_none_iff_forall_ne_some]
    intro more hmore
    obtain ⟨written, hwritten, heq⟩ := afterWord?_eq_some_iff.mp hmore
    have hlength : written.length = 4 := by
      simpa [asciiLowercase, linkWord] using congrArg List.length hwritten
    by_cases hlong : written.length ≤ back.length
    · -- the word would stand in the attributes
      have hfront : written <+: back :=
        List.prefix_of_prefix_length_le (heq ▸ List.prefix_append written more)
          (List.prefix_append back _) hlong
      have hinfix := (hfront.isInfix.trans hback.isInfix).map Char.toLower
      exact hword (hwritten ▸ hinfix)
    · -- its first letter would be another one of the word
      have hpos : 0 < back.length := List.length_pos_iff.mpr hne
      have hletter : written[back.length]? = some 'h' := by
        have hsame : (written ++ more)[back.length]? = written[back.length]? :=
          List.getElem?_append_left (by omega)
        rw [← hsame, ← heq, List.getElem?_append_right (Nat.le_refl _), Nat.sub_self]
        rfl
      refine linkWord_ne_h back.length (by omega) hpos ?_
      rw [← hwritten, asciiLowercase, List.getElem?_map, hletter]
      rfl
  unfold linkWord at hnone ⊢
  rw [attribute?, hnone]

namespace Piece

variable (piece : Piece)

/-- The quote that ends what is read: the first one in the value, or the one behind it. -/
theorem exists_closing (rest : List Char) : ∃ closing behind, isQuote closing ∧
    piece.unread ++ piece.quote :: rest = closing :: behind := by
  cases hunread : piece.unread with
  | nil => exact ⟨piece.quote, rest, piece.isQuote_quote, rfl⟩
  | cons closing unread =>
    refine ⟨closing, unread ++ piece.quote :: rest, ?_, rfl⟩
    have hhead := List.head?_dropWhile_not (!isQuote ·) piece.value
    rw [Piece.unread] at hunread
    rw [hunread] at hhead
    simpa using hhead

/-- The value of a piece is read up to its first quote, and what follows that quote is what
is searched next. -/
theorem anchor?_eq (hread : piece.read ≠ []) (rest : List Char) :
    anchor? ('<' :: 'a' :: piece.blank :: (piece.attributes ++
      (linkWord ++ '=' :: piece.quote :: (piece.value ++ piece.quote :: rest)))) =
      some (piece.read, (piece.unread ++ piece.quote :: rest).tail) := by
  obtain ⟨closing, behind, hclosing, hbehind⟩ := piece.exists_closing rest
  have hquoted : IsQuoted (piece.quote :: (piece.read ++ [closing])) piece.read :=
    .intro piece.isQuote_quote hclosing hread fun c hc => by
      simpa using List.mem_takeWhile_imp hc
  have hlink : IsAttribute (linkWord ++ ([] ++ '=' ::
      ([] ++ piece.quote :: (piece.read ++ [closing])))) piece.read :=
    .intro (by decide) (by simp) (by simp) hquoted
  have hwritten : linkWord ++ '=' :: piece.quote :: (piece.value ++ piece.quote :: rest) =
      linkWord ++ ([] ++ '=' :: ([] ++ piece.quote :: (piece.read ++ [closing]))) ++ behind := by
    have hvalue : piece.value ++ piece.quote :: rest = piece.read ++ closing :: behind := by
      rw [← hbehind, ← List.append_assoc, read, unread, List.takeWhile_append_dropWhile]
    rw [hvalue]
    simp
  have hfound := withinTag?_of_attribute? (attribute?_append hlink behind)
  rw [← hwritten] at hfound
  rw [anchor?, if_pos ⟨rfl, piece.isBlank_blank⟩, withinTag?_append piece.endsNoTag
    fun back hback hne => attribute?_back piece.holdsNoWord hback hne, hfound, hbehind,
    List.tail_cons]

/-- No tag begins between the quote that ends what is read and the next piece. -/
theorem not_mem_tail (hunread : '<' ∉ piece.unread) :
    '<' ∉ (piece.unread ++ [piece.quote, '>']).tail := by
  intro hmem
  rcases List.mem_append.mp (List.mem_of_mem_tail hmem) with hmem | hmem
  · exact hunread hmem
  · have hquote : '<' ≠ piece.quote := by
      intro heq
      have hopen := piece.isQuote_quote
      rw [← heq] at hopen
      exact absurd hopen (by decide)
    simp [hquote] at hmem

end Piece

/-! ## Piece by piece -/

theorem anchor?_eq_none {c : Char} (hc : c ≠ '<') (rest : List Char) :
    anchor? (c :: rest) = none := by
  unfold anchor?
  split
  · rename_i heq
    exact absurd (List.cons.inj heq).1 hc
  · rfl

theorem values_append {text : List Char} (htext : '<' ∉ text) (rest : List Char) :
    values (text ++ rest) = values rest := by
  induction text with
  | nil => rfl
  | cons c text ih =>
    obtain ⟨hc, hmore⟩ := not_or.mp (List.mem_cons.not.mp htext)
    rw [List.cons_append, values]
    split
    · rename_i hfound
      rw [anchor?_eq_none (Ne.symm hc)] at hfound
      cases hfound
    · exact ih hmore

theorem values_of_anchor? {html value rest : List Char} (h : anchor? html = some (value, rest)) :
    values html = value :: values rest := by
  rw [values]
  split
  · rename_i hfound
    obtain ⟨rfl, rfl⟩ := Prod.mk.inj (Option.some.inj (hfound.symm.trans h))
    rfl
  · rename_i hfound
    rw [hfound] at h
    cases h

/-- What is read of pieces one after another, where no tag begins in what is not read. -/
theorem values_pieces {pieces : List Piece}
    (h : ∀ piece ∈ pieces, piece.read ≠ [] ∧ '<' ∉ piece.unread) :
    values (pieces.flatMap Piece.text) = pieces.map Piece.read := by
  induction pieces with
  | nil =>
    rw [List.flatMap_nil, values]
    rfl
  | cons piece pieces ih =>
    obtain ⟨⟨hread, hunread⟩, hrest⟩ := List.forall_mem_cons.mp h
    have htext : (piece :: pieces).flatMap Piece.text =
        piece.before ++ '<' :: 'a' :: piece.blank :: (piece.attributes ++ (linkWord ++ '=' ::
          piece.quote :: (piece.value ++ piece.quote :: '>' :: pieces.flatMap Piece.text))) := by
      simp [Piece.text]
    have hbehind : (piece.unread ++ piece.quote :: '>' :: pieces.flatMap Piece.text).tail =
        (piece.unread ++ [piece.quote, '>']).tail ++ pieces.flatMap Piece.text := by
      rw [← List.tail_append_of_ne_nil (by simp)]
      simp
    rw [htext, values_append piece.opensNoTag, values_of_anchor? (piece.anchor?_eq hread _),
      hbehind, values_append (piece.not_mem_tail hunread), ih hrest, List.map_cons]

/-- The links of anchors written one after another are their values, trimmed and in order, but
for those that lead to no page, if no value holds a quote. A quote of the other kind ends
what is read of a value: if it does not begin the value, and no `<` follows it there, the
part before it is the link. -/
theorem links_written (pieces : List Piece) :
    ((∀ piece ∈ pieces, ∀ c ∈ piece.value, isQuote c = false) →
      links (pieces.flatMap Piece.text) =
        ((pieces.map Piece.value).map trim).filter (¬ IsLeftOut ·)) ∧
    ((∀ piece ∈ pieces, piece.read ≠ [] ∧ '<' ∉ piece.unread) →
      links (pieces.flatMap Piece.text) =
        ((pieces.map Piece.read).map trim).filter (¬ IsLeftOut ·)) := by
  refine ⟨fun hvalues => ?_, fun hpieces => by rw [links_eq, values_pieces hpieces]⟩
  have hread : ∀ piece ∈ pieces, piece.read = piece.value := fun piece hpiece =>
    List.takeWhile_eq_self_iff.mpr (by simpa using hvalues piece hpiece)
  have hunread : ∀ piece ∈ pieces, piece.unread = [] := fun piece hpiece =>
    List.dropWhile_eq_nil_iff.mpr (by simpa using hvalues piece hpiece)
  have hpieces : ∀ piece ∈ pieces, piece.read ≠ [] ∧ '<' ∉ piece.unread := by
    intro piece hpiece
    rw [hread piece hpiece, hunread piece hpiece]
    exact ⟨piece.value_ne_nil, List.not_mem_nil⟩
  rw [links_eq, values_pieces hpieces, List.map_congr_left hread]

/-- A link with an apostrophe, in the other quotes. -/
def apostrophe : Piece where
  before := "See ".toList
  blank := ' '
  attributes := "class=\x27c\x27 ".toList
  quote := '\x22'
  value := " it\x27s".toList
  opensNoTag := by decide
  isBlank_blank := by decide
  endsNoTag := by decide
  holdsNoWord := by decide +kernel
  isQuote_quote := by decide
  value_ne_nil := by decide
  quote_not_mem := by decide

/-- A link with signs of markup, behind attributes that could be the beginning of its word. -/
def markedUp : Piece where
  before := "the text> ".toList
  blank := '\n'
  attributes := "class=\x27<c\x27 HRE".toList
  quote := '\x27'
  value := "http://a.test/?<a href=<>".toList
  opensNoTag := by decide
  isBlank_blank := by decide
  endsNoTag := by decide
  holdsNoWord := by decide +kernel
  isQuote_quote := by decide
  value_ne_nil := by decide
  quote_not_mem := by decide

/-- Values that hold no quote, and one of which only what stands before its quote is read. -/
theorem links_written_markedUp :
    (∀ piece ∈ [markedUp, markedUp], ∀ c ∈ piece.value, isQuote c = false) ∧
    links ([markedUp, markedUp].flatMap Piece.text) = [markedUp.value, markedUp.value] ∧
    (∀ piece ∈ [markedUp, apostrophe], piece.read ≠ [] ∧ '<' ∉ piece.unread) ∧
    links ([markedUp, apostrophe].flatMap Piece.text) = [markedUp.value, "it".toList] := by
  have hvalue : ∀ c ∈ markedUp.value, (!isQuote c) = true :=
    List.all_eq_true.mp (by decide +kernel)
  have hvalues : ∀ piece ∈ [markedUp, markedUp], ∀ c ∈ piece.value, isQuote c = false := by
    simpa using hvalue
  have hread : ∀ piece ∈ [markedUp, apostrophe], piece.read ≠ [] ∧ '<' ∉ piece.unread := by
    decide +kernel
  exact ⟨hvalues, ((links_written _).1 hvalues).trans (by decide +kernel), hread,
    ((links_written _).2 hread).trans (by decide +kernel)⟩

/-- The link with an apostrophe does not come back as it is written. -/
theorem links_not_written : ¬ ∀ pieces : List Piece, links (pieces.flatMap Piece.text) =
    ((pieces.map Piece.value).map trim).filter (¬ IsLeftOut ·) := by
  intro h
  have hlinks := h [apostrophe]
  rw [links_eq, values_pieces (by decide +kernel)] at hlinks
  exact absurd hlinks (by decide +kernel)

end LinkDigest.Anchor
