import LinkDigest.Proofs.Page.Chunks
import LinkDigest.Proofs.Text.Blank
import LinkDigest.Proofs.Text.Decode

/-!
# When nothing can change a title any more

A scanner says that it is done with the first byte that it does not need: one more than
the tag is looked for in, or one behind the title. The title may be settled before that
byte: when less is left of the limit than is missing of the tag, and when the title has all
the bytes that it may have.
-/

namespace LinkDigest

open LinkDigest.Text

namespace TitleScanner

/-- Whether no bytes that may still come change the title. -/
def IsFinal (s : TitleScanner) : Prop := ∀ more, (s.feed more).finish? = s.finish?

/-- Whether a scanner is done, or there is no room left: not for what is missing of the
tag within the limit, or not for another byte of the title. -/
def isSpent (s : TitleScanner) : Bool :=
  match s.stage with
  | .seeking matched => s.limit < s.consumed + (tag.length - matched)
  | .reading collected => collected.length = maxTitleBytes
  | .found _ => true
  | .exhausted => true

/-- Whether a title that is read has come to bytes that read the same with any others that
may still be collected. -/
def ReadsAlike (s : TitleScanner) : Prop :=
  ∃ collected, s.stage = .reading collected ∧
    ∀ more, tagOpen ∉ more → collected.length + more.length ≤ maxTitleBytes →
      decodeTitle? s.charset s.indexes (collected.reverse ++ more) =
        decodeTitle? s.charset s.indexes collected.reverse

theorem isFinal_of_isDone {s : TitleScanner} (h : s.isDone) : s.IsFinal := fun more => by
  rw [feed_of_isDone h]

/-! ## Stages that are reached -/

/-- A part of the tag is matched, but not all of it, and no more is collected than there may
be. -/
def IsReached : ScanStage → Prop
  | .seeking matched => matched < tag.length
  | .reading collected => collected.length ≤ maxTitleBytes
  | .found _ => True
  | .exhausted => True

theorem isReached_seek {matched : Nat} (h : matched < tag.length) (byte : UInt8) :
    IsReached (seek matched byte) := by
  unfold seek
  split
  · exact h
  · split
    · split
      · exact Nat.zero_le _
      · show matched + 1 < tag.length
        omega
    · show (if byte = tagOpen then 1 else 0) < tag.length
      split <;> decide

theorem isReached_collect (collected : List UInt8) (byte : UInt8) :
    IsReached (collect collected byte) := by
  unfold collect
  split
  · trivial
  · show (byte :: collected).length ≤ maxTitleBytes
    rw [List.length_cons]
    omega

theorem isReached_step {s : TitleScanner} (h : IsReached s.stage) (byte : UInt8) :
    IsReached (s.step byte).stage := by
  obtain ⟨limit, charset, indexes, consumed, stage⟩ := s
  cases stage with
  | seeking matched =>
    unfold step
    simp only
    split
    · trivial
    · exact isReached_seek h byte
  | reading collected => exact isReached_collect collected byte
  | found collected => trivial
  | exhausted => trivial

theorem isReached_feed {s : TitleScanner} (h : IsReached s.stage) (bytes : List UInt8) :
    IsReached (s.feed bytes).stage := by
  induction bytes generalizing s with
  | nil => exact h
  | cons byte bytes ih => exact ih (isReached_step h byte)

@[simp] theorem charset_step (s : TitleScanner) (byte : UInt8) :
    (s.step byte).charset = s.charset := by
  unfold step
  split
  · split <;> rfl
  all_goals rfl

@[simp] theorem charset_feed (s : TitleScanner) (bytes : List UInt8) :
    (s.feed bytes).charset = s.charset := by
  induction bytes generalizing s with
  | nil => rfl
  | cons byte bytes ih => exact (ih (s.step byte)).trans (charset_step s byte)

/-! ## Looking for the tag -/

/-- Each byte matches at most one more of the tag. -/
theorem seek_cases (matched : Nat) (byte : UInt8) :
    (matched + 1 = tag.length ∧ seek matched byte = .reading []) ∨
    ∃ next ≤ matched + 1, seek matched byte = .seeking next := by
  unfold seek
  split
  · exact .inr ⟨matched, Nat.le_succ _, rfl⟩
  · split
    · split
      · exact .inl ⟨by assumption, rfl⟩
      · exact .inr ⟨matched + 1, Nat.le_refl _, rfl⟩
    · exact .inr ⟨_, by split <;> omega, rfl⟩

/-- Where the rest of the tag does not fit into the limit no title is found. -/
theorem finish?_feed_of_lt {limit consumed matched : Nat} (charset : Charset) (indexes : Indexes)
    (h : limit < consumed + (tag.length - matched)) (bytes : List UInt8) :
    (feed ⟨limit, charset, indexes, consumed, .seeking matched⟩ bytes).finish? = none := by
  induction bytes generalizing consumed matched with
  | nil => rfl
  | cons byte bytes ih =>
    show (feed (step _ byte) bytes).finish? = none
    by_cases hroom : consumed < limit
    · rw [step_seeking charset indexes matched byte hroom]
      rcases seek_cases matched byte with ⟨hlast, -⟩ | ⟨next, hnext, hseek⟩
      · omega
      · rw [hseek]
        exact ih (by omega)
    · have hstop : step ⟨limit, charset, indexes, consumed, .seeking matched⟩ byte =
          ⟨limit, charset, indexes, consumed, .exhausted⟩ := by
        simp [step, Nat.le_of_not_lt hroom]
      rw [hstop, feed_of_isDone rfl]
      rfl

theorem seek_tag : ∀ (matched : Nat) (h : matched < tag.length), seek matched tag[matched] =
    if matched + 1 = tag.length then .reading [] else .seeking (matched + 1) := by
  decide

/-- The rest of the tag leads to the title, if it fits into the limit. -/
theorem feed_drop_tag {limit consumed matched : Nat} (charset : Charset) (indexes : Indexes)
    (hmatched : matched < tag.length) (h : consumed + (tag.length - matched) ≤ limit) :
    feed ⟨limit, charset, indexes, consumed, .seeking matched⟩ (tag.drop matched) =
      ⟨limit, charset, indexes, consumed + (tag.length - matched), .reading []⟩ := by
  rw [List.drop_eq_getElem_cons hmatched]
  show feed (step _ tag[matched]) _ = _
  rw [step_seeking charset indexes matched _ (by omega),
    seek_tag matched hmatched]
  by_cases hlast : matched + 1 = tag.length
  · rw [if_pos hlast, hlast, List.drop_length]
    have hone : tag.length - matched = 1 := by omega
    rw [hone]
    rfl
  · rw [if_neg hlast, feed_drop_tag charset indexes (by omega) (by omega)]
    have hcount : consumed + 1 + (tag.length - (matched + 1)) =
        consumed + (tag.length - matched) := by omega
    rw [hcount]
termination_by tag.length - matched

/-- Two letters are a title in every character set, if only of one character. -/
theorem decodeTitle?_letters (charset : Charset) (indexes : Indexes) :
    decodeTitle? charset indexes [0x41, 0x41] ≠ none := by
  have hread : (trim (charset.decode indexes [0x41, 0x41])).isEmpty = false := by
    cases charset with
    | utf16le =>
      have htext : (trim (Utf16.decode false [0x41, 0x41])).isEmpty = false := by decide +kernel
      exact htext
    | utf16be =>
      have htext : (trim (Utf16.decode true [0x41, 0x41])).isEmpty = false := by decide +kernel
      exact htext
    | _ => rfl
  simp [decodeTitle?, hread]

/-- While the tag is looked for, the title is settled just if the rest of the tag does not
fit into the limit any more. -/
theorem isFinal_seeking_iff {limit consumed matched : Nat} (charset : Charset) (indexes : Indexes)
    (hmatched : matched < tag.length) :
    IsFinal ⟨limit, charset, indexes, consumed, .seeking matched⟩ ↔
      limit < consumed + (tag.length - matched) := by
  constructor
  · intro hfinal
    refine Nat.lt_of_not_le fun hroom => decodeTitle?_letters charset indexes ?_
    have htitle := hfinal (tag.drop matched ++ [0x41, 0x41])
    rw [feed_append, feed_drop_tag charset indexes hmatched hroom] at htitle
    exact htitle
  · intro h more
    rw [finish?_feed_of_lt charset indexes h]
    rfl

/-! ## Reading the title -/

/-- While the title is read, it is settled just if it reads the same with all that may
still be collected. -/
theorem isFinal_reading_iff {limit consumed : Nat} {charset : Charset} {indexes : Indexes}
    {collected : List UInt8} (hlength : collected.length ≤ maxTitleBytes) :
    IsFinal ⟨limit, charset, indexes, consumed, .reading collected⟩ ↔
      ∀ more, tagOpen ∉ more → collected.length + more.length ≤ maxTitleBytes →
        decodeTitle? charset indexes (collected.reverse ++ more) =
          decodeTitle? charset indexes collected.reverse := by
  have hfeed := fun more => finish?_feed_reading limit consumed charset indexes more hlength
  constructor
  · intro hfinal more hopen hroom
    have htitle := (hfeed more).symm.trans (hfinal more)
    rw [List.takeWhile_eq_self_iff.mpr, List.take_of_length_le] at htitle
    · exact htitle
    · rw [List.length_append, List.length_reverse]
      exact hroom
    · intro byte hbyte
      rw [bne_iff_ne]
      rintro rfl
      exact hopen hbyte
  · intro h more
    rw [hfeed, List.take_append, List.take_of_length_le (by simpa using hlength)]
    refine h _ (fun hopen => ?_) ?_
    · have hbyte := List.mem_takeWhile_imp (List.mem_of_mem_take hopen)
      simp at hbyte
    · rw [List.length_take, List.length_reverse]
      omega

/-- An exclamation mark more changes the title, where it is a character of its own. -/
theorem decodeTitle?_append_ne {charset : Charset} (h : charset.isAsciiCompatible)
    (indexes : Indexes) (bytes : List UInt8) :
    decodeTitle? charset indexes (bytes ++ [0x21]) ≠ decodeTitle? charset indexes bytes := by
  obtain ⟨more, hdecode⟩ := Charset.decode_append_mark h indexes bytes
  have hlonger : (trim (charset.decode indexes bytes ++ more ++ ['!'])).isEmpty = false := by
    rw [trim_append_singleton (by decide)]
    simp
  unfold decodeTitle?
  simp only [hdecode, hlonger, Bool.false_eq_true, if_false]
  split
  · simp
  · rw [ne_eq, Option.some.injEq]
    exact trim_append_ne (by decide) _ more

theorem isSpent_of_readsAlike {s : TitleScanner} (h : s.charset.isAsciiCompatible)
    (hreached : IsReached s.stage) (hreads : s.ReadsAlike) : s.isSpent := by
  obtain ⟨collected, hstage, hmore⟩ := hreads
  rw [hstage] at hreached
  have hfull : ¬ collected.length < maxTitleBytes := fun hroom =>
    decodeTitle?_append_ne h s.indexes collected.reverse (hmore [0x21] (by decide) hroom)
  have hlength : collected.length ≤ maxTitleBytes := hreached
  simp only [isSpent, hstage, decide_eq_true_eq]
  omega

/-! ## Any scanner that has been fed -/

theorem isFinal_iff {s : TitleScanner} (hreached : IsReached s.stage) :
    s.IsFinal ↔ s.isSpent ∨ s.ReadsAlike := by
  obtain ⟨limit, charset, indexes, consumed, stage⟩ := s
  cases stage with
  | seeking matched =>
    rw [isFinal_seeking_iff charset indexes hreached]
    simp [isSpent, ReadsAlike]
  | reading collected =>
    rw [isFinal_reading_iff hreached]
    constructor
    · intro hmore
      exact .inr ⟨collected, rfl, hmore⟩
    · rintro (hfull | ⟨other, hstage, hmore⟩)
      · intro more hopen hroom
        have hnothing : more = [] := by
          have hlength : collected.length = maxTitleBytes := of_decide_eq_true hfull
          exact List.eq_nil_of_length_eq_zero (by omega)
        rw [hnothing, List.append_nil]
      · obtain rfl := ScanStage.reading.inj hstage
        exact hmore
  | found collected => exact iff_of_true (isFinal_of_isDone rfl) (.inl rfl)
  | exhausted => exact iff_of_true (isFinal_of_isDone rfl) (.inl rfl)

/-- A scanner that has been fed chunks says that it is done just if they hold more bytes than
it looks for the tag in, or a byte behind the title. Then nothing can change the title any
more; and nothing can do so just if the scanner is done or there is no room left, for the
rest of the tag within the limit or for another byte of the title. Only in a character set
in which bytes of ASCII are not characters of their own there may be titles besides that
read the same with all that may still be collected. -/
theorem feed_reports (limit : Nat) (charset : Charset) (indexes : Indexes)
    (chunks : List (List UInt8)) :
    let fed := chunks.foldl feed (new limit charset indexes)
    fed.isDone = isSettled limit chunks.flatten ∧ (fed.isDone → fed.IsFinal) ∧
    (fed.IsFinal ↔ fed.isSpent ∨ fed.ReadsAlike) ∧
    (charset.isAsciiCompatible → (fed.IsFinal ↔ fed.isSpent)) := by
  intro fed
  have hfed : fed = (new limit charset indexes).feed chunks.flatten := foldl_feed _ chunks
  have hseeks : Seeks limit charset indexes chunks.flatten fed :=
    hfed ▸ seeks_feed_new limit charset indexes chunks.flatten
  have hstart : IsReached (new limit charset indexes).stage := Nat.succ_pos _
  have hreached : IsReached fed.stage := hfed ▸ isReached_feed hstart chunks.flatten
  have hcharset : fed.charset = charset := by
    rw [hfed, charset_feed]
    rfl
  refine ⟨hseeks.isDone_eq_isSettled, isFinal_of_isDone, isFinal_iff hreached, fun hascii => ?_⟩
  rw [isFinal_iff hreached, or_iff_left_of_imp]
  exact isSpent_of_readsAlike (hcharset ▸ hascii) hreached

/-- A title of all the bytes that it may have, which only the next byte makes known. -/
theorem feed_reports_fullTitle :
    let chunks := [tag, List.replicate 1024 0x41]
    let fed := chunks.foldl feed (new 7 .utf8)
    let more := (chunks ++ [[0x41]]).foldl feed (new 7 .utf8)
    Charset.isAsciiCompatible .utf8 ∧ fed.isDone = false ∧ fed.IsFinal ∧
      more.isDone ∧ more.IsFinal := by
  intro chunks fed more
  have hfull : fed.IsFinal :=
    ((feed_reports 7 .utf8 .empty chunks).2.2.2 rfl).mpr (by decide +kernel)
  have hdone : more.isDone := by decide +kernel
  exact ⟨rfl, by decide +kernel, hfull, hdone, (feed_reports 7 .utf8 .empty _).2.1 hdone⟩

/-- Where the tag has been looked for in all the bytes of the limit no title comes any more,
and the scanner is not done. -/
theorem feed_reports_late :
    ¬ ∀ (limit : Nat) (chunks : List (List UInt8)),
      let fed := chunks.foldl feed (new limit .utf8)
      fed.isDone ↔ fed.IsFinal := by
  intro h
  have hfinal : IsFinal ⟨4, .utf8, .empty, 4, .seeking 0⟩ :=
    (isFinal_seeking_iff .utf8 .empty (by decide)).mpr (by decide)
  have hfed : ["<htm".toUTF8.toList].foldl feed (new 4 .utf8) =
      ⟨4, .utf8, .empty, 4, .seeking 0⟩ := by
    have hbytes : "<htm".toUTF8.toList = [0x3C, 0x68, 0x74, 0x6D] := by decide +kernel
    rw [hbytes]
    rfl
  have hdone : isDone ⟨4, .utf8, .empty, 4, .seeking 0⟩ := hfed ▸ (h 4 _).mpr (hfed ▸ hfinal)
  cases hdone

end TitleScanner

end LinkDigest
