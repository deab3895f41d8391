import LinkDigest.Filter.Expression
import LinkDigest.Proofs.Filter.Glob
import LinkDigest.Proofs.Pattern.CharSet
import LinkDigest.Proofs.Pattern.Reading
import LinkDigest.Proofs.Pattern.Search

/-!
# What the pattern of keywords matches

The pattern that keywords write is read back sign by sign: each character of a keyword gives
one part of it, whatever it means in patterns otherwise. So it matches a link without a line
feed just when one of the keywords stands for a part of the link.
-/

namespace LinkDigest

open LinkDigest.Text
open LinkDigest.Matcher (Place)
open LinkDigest.Pattern (Reader Reads Item Part SpansAll)

/-! ## Writing -/

namespace Keyword

/-- What a character of a keyword writes. -/
def sign (c : Char) : List Char :=
  if c = '*' then ['.', '*'] else if Pattern.isMeta c then ['\\', c] else [c]

/-- Cutting a keyword at its stars and joining it again writes it sign by sign. -/
theorem expression_eq_flatMap (keyword : List Char) :
    expression keyword = keyword.flatMap sign := by
  induction keyword with
  | nil => rfl
  | cons c keyword ih =>
    rw [List.flatMap_cons, ← ih]
    by_cases hstar : c = '*'
    · obtain ⟨first, rest, hfields⟩ := exists_fieldsFrom_eq (· == '*') keyword
      rw [expression, expression, fields_cons_of_pos (by simpa using hstar), fields, hfields,
        sign, if_pos hstar]
      rfl
    · obtain ⟨first, rest, hfields, hcons⟩ :=
        fields_cons_of_neg (p := (· == '*')) (by simpa using hstar) keyword
      rw [expression, expression, hcons, hfields, sign, if_neg hstar, List.map_cons, List.map_cons,
        Pattern.escape, List.flatMap_cons]
      cases rest with
      | nil => simp [Pattern.escape]
      | cons next rest =>
        rw [List.map_cons, List.intercalate_cons_cons, List.intercalate_cons_cons]
        simp only [Pattern.escape, List.append_assoc]

example : expression "a.b*c".toList = "a\\.b.*c".toList := by decide

/-- No keyword writes anything that begins with a question mark. -/
theorem head?_sign_append_ne (c : Char) (text : List Char) :
    (sign c ++ text).head? ≠ some '?' := by
  unfold sign
  split
  · simp
  · split
    · simp
    · rename_i hmeta
      rintro ⟨⟩
      exact hmeta rfl

theorem head?_flatMap_sign_append_ne {text : List Char} (htext : text.head? ≠ some '?')
    (keyword : List Char) : (keyword.flatMap sign ++ text).head? ≠ some '?' := by
  cases keyword with
  | nil => exact htext
  | cons c keyword =>
    rw [List.flatMap_cons, List.append_assoc]
    exact head?_sign_append_ne c _

/-! ## Reading -/

/-- What is read of a character of a keyword, and how deep it is. -/
def part (c : Char) : Part :=
  if c = '*' then (.repetition (.set .noLineFeed) 0 none true, 1)
  else (.set (CharSet.singleton c).withCases, 0)

theorem reads_sign {r : Reader} {c : Char} {rest : List Char} (hflags : r.flags = .caseless)
    (hrest : r.rest = sign c ++ rest) (hlazy : rest.head? ≠ some '?') :
    Reads r { r with items := .part (part c) :: r.items, rest } := by
  have hverbose : r.flags.verbose = false := by rw [hflags]; rfl
  have hcases : r.flags.cases (CharSet.singleton c) = (CharSet.singleton c).withCases := by
    rw [hflags]
    rfl
  by_cases hstar : c = '*'
  · rw [sign, if_pos hstar] at hrest
    have hdot : Reads r (r.push (.set .noLineFeed) 0 ('*' :: rest)) := by
      refine Pattern.reads_of_step hverbose hrest ?_ (Nat.le_refl _)
      simp only [Reader.step?, hflags, Pattern.Flags.caseless, Pattern.Flags.none,
        Bool.false_eq_true, if_false]
      rfl
    refine hdot.trans (Pattern.reads_of_step hverbose rfl ?_ (Nat.le_refl _))
    rw [part, if_pos hstar]
    show (r.push (.set .noLineFeed) 0 ('*' :: rest)).repeatLast? 0 none rest = _
    have hrepeated : Pattern.repeated (.set .noLineFeed) 0 none (!r.flags.swapGreed) =
        .repetition (.set .noLineFeed) 0 none true := by
      rw [hflags]
      rfl
    cases rest with
    | nil => simp [Reader.repeatLast?, Reader.push, hrepeated]
    | cons d rest =>
      have hd : d ≠ '?' := fun heq => hlazy (by rw [heq]; rfl)
      simp [Reader.repeatLast?, Reader.push, hrepeated, hd]
  · have hpart : part c = (.set (r.flags.cases (CharSet.singleton c)), 0) := by
      rw [part, if_neg hstar, hcases]
    rw [hpart]
    rw [sign, if_neg hstar] at hrest
    by_cases hmeta : Pattern.isMeta c
    · rw [if_pos hmeta] at hrest
      exact Pattern.reads_escaped hverbose hmeta hrest
    · rw [if_neg hmeta] at hrest
      exact Pattern.reads_plain hverbose hmeta hrest

/-- What is read of a keyword. -/
def items (keyword : List Char) : List Item := keyword.map fun c => .part (part c)

theorem reads_keyword {r : Reader} {keyword rest : List Char} (hflags : r.flags = .caseless)
    (hrest : r.rest = keyword.flatMap sign ++ rest) (hlazy : rest.head? ≠ some '?') :
    Reads r { r with items := (items keyword).reverse ++ r.items, rest } := by
  induction keyword generalizing r with
  | nil =>
    obtain rfl : r.rest = rest := hrest
    exact .refl r
  | cons c keyword ih =>
    rw [List.flatMap_cons, List.append_assoc] at hrest
    have hfirst := reads_sign hflags hrest (head?_flatMap_sign_append_ne hlazy keyword)
    have hrest := ih (r := { r with
      items := .part (part c) :: r.items
      rest := keyword.flatMap sign ++ rest }) hflags rfl
    refine hfirst.trans ?_
    simpa [items] using hrest

theorem expressions_cons (keyword next : List Char) (more : List (List Char)) :
    expressions (keyword :: next :: more) =
      keyword.flatMap sign ++ '|' :: expressions (next :: more) := by
  rw [expressions, List.map_cons, List.map_cons, List.intercalate_cons_cons,
    expression_eq_flatMap, List.append_assoc]
  rfl

/-- Having read all keywords, each is a branch of its own. -/
theorem exists_reads_keywords {r : Reader} {keywords : List (List Char)} (hne : keywords ≠ [])
    (hflags : r.flags = .caseless) (hrest : r.rest = expressions keywords) (hitems : r.items = []) :
    ∃ later, Reads r later ∧ later.rest = [] ∧ later.stack = r.stack ∧
      later.alternatives =
        (keywords.map fun keyword => Pattern.sequenceOf (items keyword)).reverse ++ r.branches := by
  induction keywords generalizing r with
  | nil => exact absurd rfl hne
  | cons keyword more ih =>
    cases more with
    | nil =>
      have hlast : r.rest = keyword.flatMap sign ++ [] := by
        rw [hrest, expressions, List.map_singleton, List.intercalate_singleton,
          expression_eq_flatMap, List.append_nil]
      refine ⟨_, reads_keyword hflags hlast nofun, rfl, rfl, ?_⟩
      simp [Reader.alternatives, hitems]
    | cons next more =>
      rw [expressions_cons] at hrest
      have hread := reads_keyword hflags hrest nofun
      rw [hitems, List.append_nil] at hread
      have hbar : Reads
          { r with items := (items keyword).reverse, rest := '|' :: expressions (next :: more) }
          { r with
            items := []
            branches := Pattern.sequenceOf (items keyword).reverse.reverse :: r.branches
            rest := expressions (next :: more) } :=
        Pattern.reads_of_step (by rw [hflags]; rfl) rfl rfl (Nat.le_refl _)
      obtain ⟨later, hlater, hdone, hstack, halternatives⟩ := ih (List.cons_ne_nil next more)
        (r := { r with
          items := []
          branches := Pattern.sequenceOf (items keyword).reverse.reverse :: r.branches
          rest := expressions (next :: more) }) hflags rfl rfl
      refine ⟨later, (hread.trans hbar).trans hlater, hdone, hstack, ?_⟩
      rw [halternatives]
      simp

/-! ## Matching -/

@[simp] theorem rest_advance (place : Place) (count : Nat) :
    (place.advance count).rest = place.rest.drop count := by
  induction count generalizing place with
  | zero => rfl
  | succ count ih =>
    rw [Place.advance, ih]
    obtain ⟨offset, before, rest⟩ := place
    cases rest with
    | nil => simp [Place.next]
    | cons c rest => rfl

/-- On one line a run of any characters leads to every later place. -/
theorem times_noLineFeed {start stop : Place} (hline : '\n' ∉ start.rest) {count : Nat} :
    Pattern.Times (Pattern.set .noLineFeed).Spans count start stop ↔
      count ≤ start.rest.length ∧ stop = start.advance count := by
  induction count generalizing start with
  | zero => simp [Pattern.Times, Place.advance]
  | succ count ih =>
    obtain ⟨offset, before, rest⟩ := start
    cases rest with
    | nil => simp [Pattern.Times, Pattern.Spans]
    | cons c rest =>
      have hc : CharSet.noLineFeed.contains c :=
        (CharSet.contains_noLineFeed c).mpr fun heq => hline (heq ▸ List.mem_cons_self)
      have hlater : '\n' ∉ (Place.mk (offset + 1) (some c) rest).rest :=
        fun hmem => hline (List.mem_cons_of_mem c hmem)
      constructor
      · rintro ⟨middle, ⟨d, more, -, -, rfl⟩, htimes⟩
        obtain ⟨hle, rfl⟩ := (ih hlater).mp htimes
        exact ⟨Nat.succ_le_succ hle, rfl⟩
      · rintro ⟨hle, rfl⟩
        exact ⟨_, ⟨c, rest, rfl, hc, rfl⟩, (ih hlater).mpr ⟨Nat.le_of_succ_le_succ hle, rfl⟩⟩

theorem spans_part_star {start stop : Place} (hline : '\n' ∉ start.rest) :
    (part '*').1.Spans start stop ↔
      ∃ count ≤ start.rest.length, stop = start.advance count := by
  rw [part, if_pos rfl]
  constructor
  · rintro ⟨count, -, -, htimes⟩
    exact ⟨count, (times_noLineFeed hline).mp htimes⟩
  · rintro ⟨count, hcount⟩
    exact ⟨count, Nat.zero_le _, nofun, (times_noLineFeed hline).mpr hcount⟩

theorem spans_part_char {p : Char} (hstar : p ≠ '*') {start stop : Place} :
    (part p).1.Spans start stop ↔
      ∃ c rest, start.rest = c :: rest ∧ sameFold p c ∧ stop = start.next := by
  rw [part, if_neg hstar]
  simp only [Pattern.Spans, CharSet.contains_withCases_singleton]

theorem not_mem_rest_advance {start : Place} (hline : '\n' ∉ start.rest) (count : Nat) :
    '\n' ∉ (start.advance count).rest := by
  rw [rest_advance]
  exact fun hmem => hline (List.mem_of_mem_drop hmem)

/-- The parts read of a keyword match from a place on just where the keyword stands for the
beginning of what follows. -/
theorem exists_spansAll_items_iff {keyword : List Char} {start : Place}
    (hline : '\n' ∉ start.rest) :
    (∃ stop, SpansAll ((items keyword).map fun item => item.toPart.1) start stop) ↔
      ∃ found, found <+: start.rest ∧ Globs keyword found := by
  induction keyword generalizing start with
  | nil =>
    constructor
    · intro _
      exact ⟨[], List.nil_prefix, .nil⟩
    · intro _
      exact ⟨start, rfl⟩
  | cons p keyword ih =>
    by_cases hstar : p = '*'
    · subst hstar
      constructor
      · rintro ⟨stop, middle, hpart, hrest⟩
        obtain ⟨count, -, rfl⟩ := (spans_part_star hline).mp hpart
        obtain ⟨found, ⟨after, hafter⟩, hglobs⟩ :=
          (ih (not_mem_rest_advance hline count)).mp ⟨stop, hrest⟩
        rw [rest_advance] at hafter
        refine ⟨start.rest.take count ++ found, ⟨after, ?_⟩, .star _ hglobs⟩
        rw [List.append_assoc, hafter, List.take_append_drop]
      · rintro ⟨found, ⟨after, hafter⟩, hglobs⟩
        obtain ⟨run, more, rfl, hinner⟩ := globs_star_iff.mp hglobs
        rw [List.append_assoc] at hafter
        have hdrop : (start.advance run.length).rest = more ++ after := by
          rw [rest_advance, ← hafter, List.drop_left]
        have hle : run.length ≤ start.rest.length := by
          rw [← hafter, List.length_append]
          exact Nat.le_add_right _ _
        obtain ⟨stop, hrest⟩ := (ih (not_mem_rest_advance hline run.length)).mpr
          ⟨more, ⟨after, hdrop.symm⟩, hinner⟩
        exact ⟨stop, _, (spans_part_star hline).mpr ⟨run.length, hle, rfl⟩, hrest⟩
    · obtain ⟨offset, before, rest⟩ := start
      constructor
      · rintro ⟨stop, middle, hpart, hrest⟩
        obtain ⟨c, more, rfl, hcase, rfl⟩ := (spans_part_char hstar).mp hpart
        obtain ⟨found, hfound, hglobs⟩ := (ih (not_mem_rest_advance hline 1)).mp ⟨stop, hrest⟩
        exact ⟨c :: found, List.cons_prefix_cons.mpr ⟨rfl, hfound⟩, .char hstar hcase hglobs⟩
      · rintro ⟨found, ⟨after, rfl⟩, hglobs⟩
        obtain ⟨c, found, rfl, hcase, hinner⟩ := (globs_char_iff hstar).mp hglobs
        obtain ⟨stop, hrest⟩ := (ih (not_mem_rest_advance hline 1)).mpr
          ⟨found, List.prefix_append _ _, hinner⟩
        exact ⟨stop, _, (spans_part_char hstar).mpr ⟨c, _, rfl, hcase, rfl⟩, hrest⟩

/-- The pattern of keywords can be read, and it matches a text of one line just when one of
the keywords stands for a part of the text. -/
theorem exists_ofCaseless?_expressions {keywords : List (List Char)} (hne : keywords ≠ []) :
    ∃ m, Matcher.ofCaseless? (expressions keywords) = some m ∧
      ∀ text, '\n' ∉ text → (m.isMatch text ↔ ∃ keyword ∈ keywords, Within keyword text) := by
  obtain ⟨later, hreads, hdone, hstack, halternatives⟩ :=
    exists_reads_keywords (r := .caseless (expressions keywords)) hne rfl rfl rfl
  have hnone : (Reader.caseless (expressions keywords)).branches = [] := rfl
  rw [hnone, List.append_nil] at halternatives
  have hrun : (Reader.caseless (expressions keywords)).run? ((expressions keywords).length + 1) =
      some later := hreads.run? hdone (Nat.le_succ _)
  have hparts : ∀ part ∈ later.alternatives, part.2 ≤ 2 := by
    rw [halternatives]
    intro part hpart
    obtain ⟨keyword, -, rfl⟩ := List.mem_map.mp (List.mem_reverse.mp hpart)
    refine Pattern.depth_sequenceOf_le fun item hitem => ?_
    obtain ⟨c, -, rfl⟩ := List.mem_map.mp hitem
    rw [Item.toPart, Keyword.part]
    split
    · exact Nat.le_refl 1
    · exact Nat.zero_le 1
  have hdepth : later.finished.2 ≤ Pattern.maxDepth :=
    Nat.le_trans (Pattern.depth_finished_le hparts) (by decide)
  have hempty : later.stack.isEmpty := by rw [hstack]; rfl
  refine ⟨⟨.ofPattern later.finished.1, later.names⟩, ?_, fun text hline => ?_⟩
  · show (Reader.run? _ _).bind _ = _
    rw [hrun]
    exact if_pos ⟨hempty, hdepth⟩
  · have hspans (count : Nat) :
        (∃ stop, later.finished.1.Spans ((Place.start text).advance count) stop) ↔
          ∃ keyword ∈ keywords, ∃ found, found <+: text.drop count ∧ Globs keyword found := by
      have hrest : ((Place.start text).advance count).rest = text.drop count :=
        rest_advance (Place.start text) count
      have hstart : '\n' ∉ (Place.start text).rest := hline
      simp only [Pattern.spans_finished, halternatives, List.mem_reverse, List.mem_map,
        exists_exists_and_eq_and, Pattern.spans_sequenceOf]
      rw [exists_comm]
      simp only [exists_and_left, exists_spansAll_items_iff (not_mem_rest_advance hstart count),
        hrest]
    rw [Matcher.isMatch_iff]
    simp only [hspans, within_iff]
    constructor
    · rintro ⟨count, hcount, keyword, hkeyword, hfound⟩
      exact ⟨keyword, hkeyword, count, hcount, hfound⟩
    · rintro ⟨keyword, hkeyword, count, hcount, hfound⟩
      exact ⟨count, hcount, keyword, hkeyword, hfound⟩

end Keyword

end LinkDigest
