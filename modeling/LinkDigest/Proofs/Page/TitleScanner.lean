import LinkDigest.Page.TitleScanner
import Mathlib.Data.List.Infix
import Mathlib.Data.List.TakeWhile

/-!
# What the title scanner finds

The scanner remembers one number while it looks for the opening tag. That is
enough: a part of the tag can only begin at the last `<`, so at any time there
is at most one part of the tag that the bytes end in, and the number is its
length. So the scanner stops at the first end of a tag, which is where the
title begins.
-/

namespace LinkDigest.TitleScanner

open LinkDigest.Text

/-! ## The reference -/

/-- Whether bytes end with the opening tag: `<`, blanks, and `title>` in letters
of either case. -/
def EndsInTag (bytes : List UInt8) : Prop :=
  ∃ before blanks name, bytes = before ++ tagOpen :: (blanks ++ name) ∧
    (∀ byte ∈ blanks, isTagBlank byte) ∧ name.map lowerByte = tag.tail

/-- Whether bytes are an opening tag. -/
def isOpeningTag : List UInt8 → Bool
  | [] => false
  | first :: rest => first == tagOpen && (rest.dropWhile isTagBlank).map lowerByte == tag.tail

theorem isTagBlank_of_lowerByte {byte : UInt8} (h : lowerByte byte = 0x74) :
    isTagBlank byte = false := by
  unfold lowerByte at h
  split at h
  · have hbyte : byte = 0x74 - 0x20 := by rw [← h]; simp
    rw [hbyte]
    decide
  · rw [h]
    decide

theorem isOpeningTag_iff (bytes : List UInt8) :
    isOpeningTag bytes ↔ ∃ blanks name, bytes = tagOpen :: (blanks ++ name) ∧
      (∀ byte ∈ blanks, isTagBlank byte) ∧ name.map lowerByte = tag.tail := by
  cases bytes with
  | nil => simp [isOpeningTag]
  | cons first rest =>
    rw [isOpeningTag, Bool.and_eq_true, beq_iff_eq, beq_iff_eq]
    constructor
    · rintro ⟨rfl, hname⟩
      refine ⟨rest.takeWhile isTagBlank, rest.dropWhile isTagBlank, ?_, ?_, hname⟩
      · rw [List.takeWhile_append_dropWhile]
      · intro byte hbyte
        exact List.mem_takeWhile_imp hbyte
    · rintro ⟨blanks, name, heq, hblanks, hname⟩
      obtain ⟨rfl, rfl⟩ := List.cons.inj heq
      refine ⟨rfl, ?_⟩
      rw [List.dropWhile_append_of_pos hblanks]
      cases name with
      | nil => exact hname
      | cons letter name =>
        have hletter : lowerByte letter = 0x74 := (List.cons.inj hname).1
        rw [List.dropWhile_cons_of_neg (by simp [isTagBlank_of_lowerByte hletter])]
        exact hname

instance (bytes : List UInt8) : Decidable (EndsInTag bytes) :=
  decidable_of_iff (bytes.tails.any isOpeningTag) (by
    rw [List.any_eq_true]
    constructor
    · rintro ⟨found, hsuffix, hfound⟩
      obtain ⟨before, rfl⟩ := (List.mem_tails _ _).mp hsuffix
      obtain ⟨blanks, name, rfl, hblanks, hname⟩ := (isOpeningTag_iff found).mp hfound
      exact ⟨before, blanks, name, rfl, hblanks, hname⟩
    · rintro ⟨before, blanks, name, rfl, hblanks, hname⟩
      refine ⟨tagOpen :: (blanks ++ name), ?_, ?_⟩
      · exact (List.mem_tails _ _).mpr (List.suffix_append _ _)
      · exact (isOpeningTag_iff _).mpr ⟨blanks, name, rfl, hblanks, hname⟩)

/-- Where the first opening tag ends, if it does so within the limit. -/
def tagEnd? (limit : Nat) (document : List UInt8) : Option Nat :=
  (List.range (min limit document.length + 1)).find? fun stop => EndsInTag (document.take stop)

/-- The bytes of a title that begins at a place: up to the next tag, and no more
than there may be. -/
def titleBytes (document : List UInt8) (start : Nat) : List UInt8 :=
  ((document.drop start).takeWhile (· != tagOpen)).take maxTitleBytes

/-- The title of a document: what stands behind the first opening tag, without
blanks around it; none if that is nothing. -/
def title? (limit : Nat) (charset : Charset) (indexes : Indexes) (document : List UInt8) :
    Option (List Char) :=
  match tagEnd? limit document with
  | none => none
  | some start =>
    let title := trim (charset.decode indexes (titleBytes document start))
    if title.isEmpty then none else some title

theorem tagEnd?_eq_some {limit stop : Nat} {document : List UInt8} :
    tagEnd? limit document = some stop ↔ stop ≤ limit ∧ stop ≤ document.length ∧
      EndsInTag (document.take stop) ∧ ∀ earlier < stop, ¬ EndsInTag (document.take earlier) := by
  unfold tagEnd?
  rw [List.find?_range_eq_some]
  simp only [decide_eq_true_eq, List.mem_range, Bool.not_eq_true', decide_eq_false_iff_not]
  constructor
  · rintro ⟨htag, hrange, hfirst⟩
    exact ⟨by omega, by omega, htag, hfirst⟩
  · rintro ⟨hlimit, hlength, htag, hfirst⟩
    exact ⟨htag, by omega, hfirst⟩

theorem tagEnd?_eq_none {limit : Nat} {document : List UInt8} :
    tagEnd? limit document = none ↔
      ∀ stop ≤ limit, stop ≤ document.length → ¬ EndsInTag (document.take stop) := by
  unfold tagEnd?
  rw [List.find?_range_eq_none]
  simp only [Bool.not_eq_true', decide_eq_false_iff_not]
  constructor
  · intro h stop hlimit hlength
    exact h stop (by omega)
  · intro h stop hstop
    exact h stop (by omega) (by omega)

/-! ## Parts of the tag -/

/-- Whether bytes end with the first `count` bytes of the tag, blanks allowed
behind the first one. -/
def EndsInPart (count : Nat) (bytes : List UInt8) : Prop :=
  ∃ before blanks name, bytes = before ++ tagOpen :: (blanks ++ name) ∧
    (∀ byte ∈ blanks, isTagBlank byte) ∧ name.map lowerByte = (tag.take count).tail

theorem not_endsInPart_nil (count : Nat) : ¬ EndsInPart count [] := by
  rintro ⟨before, blanks, name, heq, -⟩
  simp at heq

/-- The first byte of the tag is the last one read, or blanks have followed it. -/
theorem endsInPart_one_concat (bytes : List UInt8) (byte : UInt8) :
    EndsInPart 1 (bytes ++ [byte]) ↔ byte = tagOpen ∨ (isTagBlank byte ∧ EndsInPart 1 bytes) := by
  constructor
  · rintro ⟨before, blanks, name, heq, hblanks, hname⟩
    obtain rfl : name = [] := List.map_eq_nil_iff.mp hname
    rw [List.append_nil] at heq
    rcases List.eq_nil_or_concat' blanks with rfl | ⟨blanks, blank, rfl⟩
    · exact .inl (List.append_inj_right' heq rfl |> List.cons.inj).1
    · refine .inr ?_
      rw [← List.cons_append, ← List.append_assoc] at heq
      obtain ⟨hbytes, hbyte⟩ := List.append_inj' heq rfl
      obtain ⟨rfl, -⟩ := List.cons.inj hbyte
      refine ⟨hblanks byte (by simp), before, blanks, [], ?_, ?_, rfl⟩
      · rw [List.append_nil]
        exact hbytes
      · intro blank hblank
        exact hblanks blank (by simp [hblank])
  · rintro (rfl | ⟨hblank, before, blanks, name, rfl, hblanks, hname⟩)
    · exact ⟨bytes, [], [], rfl, by simp, rfl⟩
    · obtain rfl : name = [] := List.map_eq_nil_iff.mp hname
      refine ⟨before, blanks ++ [byte], [], by simp, ?_, rfl⟩
      intro other hother
      rcases List.mem_append.mp hother with hother | hother
      · exact hblanks other hother
      · rw [List.mem_singleton] at hother
        exact hother ▸ hblank

/-- Any later byte of the tag follows the part before it. -/
theorem endsInPart_succ_concat {count : Nat} (hpos : 1 ≤ count) (hcount : count < tag.length)
    (bytes : List UInt8) (byte : UInt8) : EndsInPart (count + 1) (bytes ++ [byte]) ↔
      tag[count]? = some (lowerByte byte) ∧ EndsInPart count bytes := by
  have hpart : (tag.take (count + 1)).tail = (tag.take count).tail ++ [tag[count]] := by
    rw [List.take_succ_eq_append_getElem hcount, List.tail_append_of_ne_nil]
    intro hnil
    have hlength := congrArg List.length hnil
    rw [List.length_take, List.length_nil] at hlength
    omega
  rw [List.getElem?_eq_getElem hcount]
  constructor
  · rintro ⟨before, blanks, name, heq, hblanks, hname⟩
    rw [hpart] at hname
    obtain ⟨name, last, rfl, hinit, hlast⟩ := List.map_eq_append_iff.mp hname
    obtain ⟨letter, rfl, hletter⟩ := List.map_eq_singleton_iff.mp hlast
    rw [← List.append_assoc, ← List.cons_append, ← List.append_assoc] at heq
    obtain ⟨hbytes, hbyte⟩ := List.append_inj' heq rfl
    obtain ⟨rfl, -⟩ := List.cons.inj hbyte
    exact ⟨congrArg some hletter.symm, before, blanks, name, hbytes, hblanks, hinit⟩
  · rintro ⟨hbyte, before, blanks, name, rfl, hblanks, hname⟩
    refine ⟨before, blanks, name ++ [byte], by simp, hblanks, ?_⟩
    rw [hpart, List.map_append, hname, List.map_singleton, Option.some.inj hbyte]

/-! ## Looking for the tag -/

/-- The bytes read so far end in just one part of the tag, of this length, or in
none of them. -/
structure Matches (matched : Nat) (bytes : List UInt8) : Prop where
  lt_length : matched < tag.length
  endsInPart_iff : ∀ count, 1 ≤ count → count ≤ tag.length →
    (EndsInPart count bytes ↔ count = matched)

theorem Matches.nil : Matches 0 [] where
  lt_length := by decide
  endsInPart_iff count hpos _ := by
    constructor
    · intro h
      exact absurd h (not_endsInPart_nil count)
    · omega

/-- No tag ends where only a part of one is matched. -/
theorem Matches.not_endsInTag {matched : Nat} {bytes : List UInt8} (h : Matches matched bytes) :
    ¬ EndsInTag bytes := by
  intro htag
  have heq := (h.endsInPart_iff 7 (by decide) (by decide)).mp htag
  have hlt := h.lt_length
  rw [← heq] at hlt
  exact absurd hlt (by decide)

theorem lowerByte_eq_tagOpen {byte : UInt8} : lowerByte byte = tagOpen ↔ byte = tagOpen := by
  unfold lowerByte
  split
  · rename_i hcapital
    obtain ⟨hlow, hhigh⟩ := hcapital
    constructor
    · intro h
      have hbyte : byte = tagOpen - 0x20 := by rw [← h]; simp
      rw [hbyte] at hlow
      exact absurd hlow (by decide)
    · rintro rfl
      exact absurd hlow (by decide)
  · rfl

/-- Only the first byte of the tag is `<`. -/
theorem tag_eq_tagOpen {matched : Nat} (h : matched < tag.length) :
    tag[matched]? = some tagOpen ↔ matched = 0 := by
  revert matched
  decide

/-- No byte of the name of the tag is a blank. -/
theorem tag_ne_blank {byte : UInt8} (h : isTagBlank byte) : tag[1]? ≠ some (lowerByte byte) := by
  intro htag
  have hname : lowerByte byte = 0x74 := (Option.some.inj htag).symm
  rw [isTagBlank_of_lowerByte hname] at h
  exact Bool.noConfusion h

/-- What a byte leads to is what the bytes end in with it. -/
theorem Matches.seek {matched : Nat} {bytes : List UInt8} (h : Matches matched bytes)
    (byte : UInt8) :
    (seek matched byte = .reading [] ∧ EndsInTag (bytes ++ [byte])) ∨
    ∃ next, seek matched byte = .seeking next ∧ Matches next (bytes ++ [byte]) := by
  obtain ⟨hlt, hiff⟩ := h
  have hone : EndsInPart 1 (bytes ++ [byte]) ↔
      byte = tagOpen ∨ (isTagBlank byte ∧ 1 = matched) := by
    rw [endsInPart_one_concat, hiff 1 (by omega) (by decide)]
  have hsucc : ∀ count, 1 ≤ count → count < tag.length →
      (EndsInPart (count + 1) (bytes ++ [byte]) ↔
        tag[count]? = some (lowerByte byte) ∧ count = matched) := by
    intro count hpos hcount
    rw [endsInPart_succ_concat hpos hcount, hiff count hpos (by omega)]
  unfold TitleScanner.seek
  by_cases hblank : matched = 1 ∧ isTagBlank byte
  · obtain ⟨rfl, hblank⟩ := hblank
    refine .inr ⟨1, if_pos ⟨rfl, hblank⟩, by decide, ?_⟩
    intro count hpos hcount
    obtain ⟨count, rfl⟩ : ∃ before, count = before + 1 := ⟨count - 1, by omega⟩
    by_cases hfirst : count = 0
    · subst hfirst
      rw [hone]
      simp [hblank]
    · rw [hsucc count (by omega) (by omega)]
      constructor
      · rintro ⟨htag, rfl⟩
        exact absurd htag (tag_ne_blank hblank)
      · omega
  · rw [if_neg hblank]
    by_cases htag : tag[matched]? = some (lowerByte byte)
    · rw [if_pos htag]
      -- the part grows by the byte
      have hgrown : ∀ count, 1 ≤ count → count ≤ tag.length →
          (EndsInPart count (bytes ++ [byte]) ↔ count = matched + 1) := by
        intro count hpos hcount
        obtain ⟨count, rfl⟩ : ∃ before, count = before + 1 := ⟨count - 1, by omega⟩
        by_cases hfirst : count = 0
        · subst hfirst
          rw [hone]
          have hopen : byte = tagOpen ↔ matched = 0 := by
            rw [← tag_eq_tagOpen hlt, htag, Option.some.injEq, lowerByte_eq_tagOpen]
          rw [hopen]
          constructor
          · rintro (rfl | ⟨hbyte, hmatched⟩)
            · rfl
            · exact absurd ⟨hmatched.symm, hbyte⟩ hblank
          · omega
        · rw [hsucc count (by omega) (by omega)]
          constructor
          · rintro ⟨-, rfl⟩
            rfl
          · intro heq
            obtain rfl : count = matched := by omega
            exact ⟨htag, rfl⟩
      by_cases hlast : matched + 1 = tag.length
      · refine .inl ⟨if_pos hlast, ?_⟩
        exact (hgrown 7 (by decide) (by decide)).mpr hlast.symm
      · exact .inr ⟨matched + 1, if_neg hlast, by omega, hgrown⟩
    · rw [if_neg htag]
      -- the match is given up; at most the byte begins a new one
      refine .inr ⟨_, rfl, by split <;> decide, ?_⟩
      intro count hpos hcount
      obtain ⟨count, rfl⟩ : ∃ before, count = before + 1 := ⟨count - 1, by omega⟩
      by_cases hfirst : count = 0
      · subst hfirst
        rw [hone]
        have hnot : ¬ (isTagBlank byte ∧ 1 = matched) := fun ⟨hbyte, heq⟩ =>
          hblank ⟨heq.symm, hbyte⟩
        split <;> simp_all
      · rw [hsucc count (by omega) (by omega)]
        constructor
        · rintro ⟨hcount, rfl⟩
          exact absurd hcount htag
        · split <;> omega

/-! ## Reading the title -/

theorem step_reading (limit consumed : Nat) (charset : Charset) (indexes : Indexes)
    (collected : List UInt8) (byte : UInt8) :
    step ⟨limit, charset, indexes, consumed, .reading collected⟩ byte =
      ⟨limit, charset, indexes, consumed, collect collected byte⟩ := rfl

/-- From within a title the scanner collects up to the next tag, and no more
than there may be. -/
theorem finish?_feed_reading (limit consumed : Nat) (charset : Charset) (indexes : Indexes)
    (rest : List UInt8) {collected : List UInt8} (hlength : collected.length ≤ maxTitleBytes) :
    (feed ⟨limit, charset, indexes, consumed, .reading collected⟩ rest).finish? =
      decodeTitle? charset indexes
        ((collected.reverse ++ rest.takeWhile (· != tagOpen)).take maxTitleBytes) := by
  have hfull : collected.reverse.take maxTitleBytes = collected.reverse :=
    List.take_of_length_le (by simpa using hlength)
  induction rest generalizing collected with
  | nil =>
    rw [List.takeWhile_nil, List.append_nil, hfull]
    rfl
  | cons byte rest ih =>
    show (feed (step _ byte) rest).finish? = _
    rw [step_reading]
    by_cases hend : byte = tagOpen ∨ maxTitleBytes ≤ collected.length
    · rw [collect, if_pos hend, feed_of_isDone rfl]
      show decodeTitle? charset indexes collected.reverse = _
      rcases hend with rfl | hcap
      · rw [List.takeWhile_cons_of_neg (by simp), List.append_nil, hfull]
      · have hexact : collected.reverse.length = maxTitleBytes := by
          rw [List.length_reverse]
          omega
        rw [← hexact, List.take_left]
    · rw [collect, if_neg hend]
      have hroom : (byte :: collected).length ≤ maxTitleBytes := by
        rw [List.length_cons]
        omega
      have hbyte : (byte != tagOpen) = true := by simpa using fun h => hend (.inl h)
      rw [ih hroom (List.take_of_length_le (by simpa using hroom)),
        List.takeWhile_cons, if_pos hbyte, List.reverse_cons, List.append_assoc]
      rfl

/-! ## A whole document -/

theorem step_seeking {limit consumed : Nat} (charset : Charset) (indexes : Indexes) (matched : Nat)
    (byte : UInt8) (hroom : consumed < limit) :
    step ⟨limit, charset, indexes, consumed, .seeking matched⟩ byte =
      ⟨limit, charset, indexes, consumed + 1, seek matched byte⟩ := by
  simp [step, Nat.not_le.mpr hroom]

theorem title?_eq_none {limit : Nat} {charset : Charset} {indexes : Indexes} {document : List UInt8}
    (h : tagEnd? limit document = none) : title? limit charset indexes document = none := by
  simp [title?, h]

theorem title?_eq_decodeTitle? {limit start : Nat} {charset : Charset} {indexes : Indexes}
    {document : List UInt8} (h : tagEnd? limit document = some start) :
    title? limit charset indexes document =
      decodeTitle? charset indexes (titleBytes document start) := by
  simp [title?, h, decodeTitle?]

/-- Where looking for the tag of a document has led: the tag may still come, it is
not where it was looked for, or the first one has been found and the title is read. -/
inductive Seeks (limit : Nat) (charset : Charset) (indexes : Indexes) (document : List UInt8) :
    TitleScanner → Prop where
  | seeking (matched : Nat) (hnone : tagEnd? limit document = none)
      (hlength : document.length ≤ limit) :
      Seeks limit charset indexes document
        ⟨limit, charset, indexes, document.length, .seeking matched⟩
  | exhausted (hnone : tagEnd? limit document = none) (hlength : limit < document.length) :
      Seeks limit charset indexes document ⟨limit, charset, indexes, limit, .exhausted⟩
  | reading (start : Nat) (hstart : tagEnd? limit document = some start) :
      Seeks limit charset indexes document
        (feed ⟨limit, charset, indexes, start, .reading []⟩ (document.drop start))

/-- Before the first tag the scanner stands at the part of one that it matched;
fed the rest, it has looked for the tag of the whole. -/
theorem seeks_feed (limit : Nat) (charset : Charset) (indexes : Indexes) (rest : List UInt8)
    {seen : List UInt8} {matched : Nat} (hmatches : Matches matched seen)
    (hlimit : seen.length ≤ limit)
    (hnone : ∀ stop ≤ seen.length, ¬ EndsInTag (seen.take stop)) :
    Seeks limit charset indexes (seen ++ rest)
      (feed ⟨limit, charset, indexes, seen.length, .seeking matched⟩ rest) := by
  induction rest generalizing seen matched with
  | nil =>
    rw [List.append_nil]
    exact .seeking matched (tagEnd?_eq_none.mpr fun stop _ => hnone stop) hlimit
  | cons byte rest ih =>
    have hseen : ∀ stop ≤ seen.length, ¬ EndsInTag ((seen ++ byte :: rest).take stop) := by
      intro stop hstop
      rw [List.take_append_of_le_length hstop]
      exact hnone stop hstop
    show Seeks limit charset indexes _ (feed (step _ byte) rest)
    by_cases hroom : seen.length < limit
    · rw [step_seeking charset indexes matched byte hroom]
      have hconcat : seen ++ byte :: rest = (seen ++ [byte]) ++ rest := by simp
      have hlength : (seen ++ [byte]).length = seen.length + 1 := by simp
      rcases hmatches.seek byte with ⟨hstage, htag⟩ | ⟨next, hstage, hnext⟩
      · -- the byte ends the tag, and nothing before it did
        have hend : tagEnd? limit (seen ++ byte :: rest) = some (seen.length + 1) := by
          refine tagEnd?_eq_some.mpr ⟨hroom, by simp, ?_, fun stop hstop => ?_⟩
          · rw [hconcat, ← hlength, List.take_left]
            exact htag
          · exact hseen stop (by omega)
        have hreading : Seeks limit charset indexes _ _ := .reading _ hend
        rw [hconcat, ← hlength, List.drop_left, ← hconcat, hlength] at hreading
        rw [hstage]
        exact hreading
      · rw [hstage, ← hlength, hconcat]
        refine ih hnext (by omega) fun stop hstop => ?_
        by_cases hlast : stop = seen.length + 1
        · rw [hlast, ← hlength, List.take_length]
          exact hnext.not_endsInTag
        · rw [List.take_append_of_le_length (by omega)]
          exact hnone stop (by omega)
    · -- the limit is reached, and no tag has ended within it
      have heq : seen.length = limit := by omega
      have hstop : step ⟨limit, charset, indexes, seen.length, .seeking matched⟩ byte =
          ⟨limit, charset, indexes, limit, .exhausted⟩ := by
        simp [step, heq]
      rw [hstop, feed_of_isDone rfl]
      refine .exhausted (tagEnd?_eq_none.mpr fun stop hlimit' _ => hseen stop (by omega)) ?_
      rw [List.length_append, List.length_cons]
      omega

/-- A new scanner looks for the tag of the document it is fed. -/
theorem seeks_feed_new (limit : Nat) (charset : Charset) (indexes : Indexes)
    (document : List UInt8) :
    Seeks limit charset indexes document ((new limit charset indexes).feed document) := by
  refine seeks_feed limit charset indexes document Matches.nil (Nat.zero_le _) ?_
  intro stop _ htag
  rw [List.take_nil] at htag
  exact Matches.nil.not_endsInTag htag

/-- A scanner that has looked for the tag of a document finds its title. -/
theorem Seeks.finish?_eq_title? {limit : Nat} {charset : Charset} {indexes : Indexes}
    {document : List UInt8} {scanner : TitleScanner}
    (h : Seeks limit charset indexes document scanner) :
    scanner.finish? = title? limit charset indexes document := by
  cases h with
  | seeking matched hnone => exact (title?_eq_none hnone).symm
  | exhausted hnone => exact (title?_eq_none hnone).symm
  | reading start hstart =>
    rw [finish?_feed_reading _ _ _ _ _ (Nat.zero_le _), title?_eq_decodeTitle? hstart, titleBytes]
    rfl

theorem finish?_feed_seeking (limit : Nat) (charset : Charset) (indexes : Indexes)
    (rest : List UInt8) {seen : List UInt8} {matched : Nat} (hmatches : Matches matched seen)
    (hlimit : seen.length ≤ limit)
    (hnone : ∀ stop ≤ seen.length, ¬ EndsInTag (seen.take stop)) :
    (feed ⟨limit, charset, indexes, seen.length, .seeking matched⟩ rest).finish? =
      title? limit charset indexes (seen ++ rest) :=
  (seeks_feed limit charset indexes rest hmatches hlimit hnone).finish?_eq_title?

/-- A scanner fed a document finds the title behind the first opening tag that
ends within the limit. -/
theorem finish?_feed_eq_title? (limit : Nat) (charset : Charset) (indexes : Indexes)
    (document : List UInt8) :
    ((new limit charset indexes).feed document).finish? =
      title? limit charset indexes document := by
  refine finish?_feed_seeking limit charset indexes document Matches.nil (Nat.zero_le _) ?_
  intro stop _ htag
  rw [List.take_nil] at htag
  exact Matches.nil.not_endsInTag htag

example : title? 11 .utf8 .empty ("<b>< TitlE> A<p>").toUTF8.toList = some ['A'] := by
  decide +kernel

end LinkDigest.TitleScanner
