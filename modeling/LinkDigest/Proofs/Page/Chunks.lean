import LinkDigest.Proofs.Page.Reading
import LinkDigest.Proofs.Page.TitleScanner

/-!
# Chunks

What a scanner makes of a document does not tell how the document was cut into
chunks: where the scanner stops looking for the tag, whether it is done and which title
it has found are all decided by the bytes. Once they are decided nothing that follows
matters, so a reader may stop at the first chunk that decides them.
-/

namespace LinkDigest

open LinkDigest.Text

namespace TitleScanner

/-! ## What a document decides -/

/-- How many bytes of a document the tag is looked for in: up to the end of the first
one, or all that there are within the limit. -/
def searched (limit : Nat) (document : List UInt8) : Nat :=
  (tagEnd? limit document).getD (min limit document.length)

/-- Whether a document decides its title, whatever follows: there is more of it than the
tag is looked for in, or more behind the tag than belongs to the title. -/
def isSettled (limit : Nat) (document : List UInt8) : Bool :=
  match tagEnd? limit document with
  | none => limit < document.length
  | some start => (titleBytes document start).length < document.length - start

theorem consumed_feed_reading (limit consumed : Nat) (charset : Charset) (indexes : Indexes)
    (rest collected : List UInt8) :
    (feed ⟨limit, charset, indexes, consumed, .reading collected⟩ rest).consumed = consumed := by
  induction rest generalizing collected with
  | nil => rfl
  | cons byte rest ih =>
    show (feed (step _ byte) rest).consumed = consumed
    rw [step_reading]
    by_cases hend : byte = tagOpen ∨ maxTitleBytes ≤ collected.length
    · rw [collect, if_pos hend, feed_of_isDone rfl]
    · rw [collect, if_neg hend]
      exact ih (byte :: collected)

/-- From within a title the scanner is done as soon as there is a byte that does not
belong to it. -/
theorem isDone_feed_reading (limit consumed : Nat) (charset : Charset) (indexes : Indexes)
    (rest : List UInt8) {collected : List UInt8} (hlength : collected.length ≤ maxTitleBytes) :
    (feed ⟨limit, charset, indexes, consumed, .reading collected⟩ rest).isDone =
      decide (((rest.takeWhile (· != tagOpen)).take (maxTitleBytes - collected.length)).length <
        rest.length) := by
  induction rest generalizing collected with
  | nil => rfl
  | cons byte rest ih =>
    show (feed (step _ byte) rest).isDone = _
    rw [step_reading]
    by_cases hend : byte = tagOpen ∨ maxTitleBytes ≤ collected.length
    · rw [collect, if_pos hend, feed_of_isDone rfl]
      symm
      show decide _ = true
      rw [decide_eq_true_eq]
      rcases hend with rfl | hcap
      · rw [List.takeWhile_cons_of_neg (by simp), List.take_nil]
        exact Nat.succ_pos _
      · rw [Nat.sub_eq_zero_of_le hcap]
        exact Nat.succ_pos _
    · rw [collect, if_neg hend]
      have hroom : collected.length < maxTitleBytes := by omega
      have hbyte : (byte != tagOpen) = true := by simpa using fun h => hend (.inl h)
      have hcount : maxTitleBytes - collected.length =
          maxTitleBytes - (byte :: collected).length + 1 := by
        rw [List.length_cons]
        omega
      rw [ih (by rw [List.length_cons]; omega), List.takeWhile_cons, if_pos hbyte, hcount,
        List.take_succ_cons, List.length_cons, List.length_cons]
      simp

namespace Seeks

variable {limit : Nat} {charset : Charset} {indexes : Indexes} {document : List UInt8}
  {scanner : TitleScanner}

theorem consumed_eq_searched (h : Seeks limit charset indexes document scanner) :
    scanner.consumed = searched limit document := by
  unfold searched
  cases h with
  | seeking matched hnone hlength =>
    rw [hnone, Option.getD_none, Nat.min_eq_right hlength]
  | exhausted hnone hlength =>
    rw [hnone, Option.getD_none, Nat.min_eq_left (by omega)]
  | reading start hstart =>
    rw [hstart, Option.getD_some, consumed_feed_reading]

theorem isDone_eq_isSettled (h : Seeks limit charset indexes document scanner) :
    scanner.isDone = isSettled limit document := by
  unfold isSettled
  cases h with
  | seeking matched hnone hlength =>
    rw [hnone]
    exact (decide_eq_false (by omega)).symm
  | exhausted hnone hlength =>
    rw [hnone]
    exact (decide_eq_true hlength).symm
  | reading start hstart =>
    rw [hstart, isDone_feed_reading _ _ _ _ _ (Nat.zero_le _), List.length_drop]
    rfl

end Seeks

/-! ## Chunk by chunk -/

/-- A scanner fed chunk by chunk is where the document as a whole would have led it. -/
theorem foldl_feed (scanner : TitleScanner) (chunks : List (List UInt8)) :
    chunks.foldl feed scanner = scanner.feed chunks.flatten := by
  induction chunks generalizing scanner with
  | nil => rfl
  | cons chunk rest ih => rw [List.foldl_cons, ih, List.flatten_cons, feed_append]

/-- Reading chunks that decide the title stops there, whatever follows and however that
ends. -/
theorem readChunks_append (limit : Nat) (charset : Charset) (indexes : Indexes)
    (chunks more : List (List UInt8)) (ending : PageEnd)
    (hdone : ((new limit charset indexes).feed chunks.flatten).isDone) :
    Page.readChunks (new limit charset indexes) ending (chunks ++ more) =
      Page.readingOf ((new limit charset indexes).feed chunks.flatten) := by
  rw [Page.readChunks_eq _ rfl, List.flatten_append, feed_append, feed_of_isDone hdone,
    if_pos hdone]

/-- Reading a page that ends as it should comes to what the scanner makes of all of it,
whether or not it stopped before the end. -/
theorem readChunks_complete (limit : Nat) (charset : Charset) (indexes : Indexes)
    (chunks : List (List UInt8)) :
    Page.readChunks (new limit charset indexes) .complete chunks =
      Page.readingOf ((new limit charset indexes).feed chunks.flatten) := by
  rw [Page.readChunks_eq _ rfl]
  exact ite_self _

/-- However a document is cut into chunks, feeding them one by one leads to the same as
feeding it at once: the same number of bytes in which the tag is looked for, the same answer
to whether the scanner is done, and the same title, all of which the document decides.
Stopping at the first chunk after which the scanner is done leads to that title and that
number too, whatever chunks or errors would have followed. -/
theorem feed_chunkwise (limit : Nat) (charset : Charset) (indexes : Indexes)
    (chunks : List (List UInt8)) :
    let whole := (new limit charset indexes).feed chunks.flatten
    let fed := chunks.foldl feed (new limit charset indexes)
    (fed.consumed = whole.consumed ∧ fed.isDone = whole.isDone ∧ fed.finish? = whole.finish?) ∧
    (whole.consumed = searched limit chunks.flatten ∧
      whole.isDone = isSettled limit chunks.flatten ∧
      whole.finish? = title? limit charset indexes chunks.flatten) ∧
    Page.readChunks (new limit charset indexes) .complete chunks =
      .read whole.finish? whole.consumed ∧
    ∀ more ending, fed.isDone →
      let all := (chunks ++ more).foldl feed (new limit charset indexes)
      Page.readChunks (new limit charset indexes) ending (chunks ++ more) =
        .read all.finish? all.consumed ∧
      all.finish? = fed.finish? ∧ all.consumed = fed.consumed ∧ all.isDone := by
  intro whole fed
  have hfed : fed = whole := foldl_feed (new limit charset indexes) chunks
  have hseeks : Seeks limit charset indexes chunks.flatten whole :=
    seeks_feed_new limit charset indexes chunks.flatten
  refine ⟨by rw [hfed]; exact ⟨rfl, rfl, rfl⟩, ?_,
    readChunks_complete limit charset indexes chunks, ?_⟩
  · exact ⟨hseeks.consumed_eq_searched, hseeks.isDone_eq_isSettled, hseeks.finish?_eq_title?⟩
  · intro more ending hdone all
    have hwhole : whole.isDone = true := hfed ▸ hdone
    have hall : all = whole := by
      show (chunks ++ more).foldl feed (new limit charset indexes) = whole
      rw [foldl_feed, List.flatten_append, feed_append]
      exact feed_of_isDone hwhole _
    rw [hall, hfed]
    exact ⟨readChunks_append limit charset indexes chunks more ending hwhole, rfl, rfl, hwhole⟩

/-- A document whose tag and title are cut, with an empty chunk between. -/
def cutTitle : List (List UInt8) :=
  ["<b>< \n Ti".toUTF8.toList, [], "tle> A ".toUTF8.toList, "B <".toUTF8.toList]

theorem feed_chunkwise_cutTitle :
    let fed := cutTitle.foldl feed (new 13 .utf8)
    let more := ["/title><title>C</title>".toUTF8.toList]
    fed.isDone ∧ fed.consumed = 13 ∧ fed.finish? = some "A B".toList ∧
    let all := (cutTitle ++ more).foldl feed (new 13 .utf8)
    Page.readChunks (new 13 .utf8) (.failed .noAnswer) (cutTitle ++ more) =
      .read all.finish? all.consumed ∧
    all.finish? = fed.finish? ∧ all.consumed = fed.consumed ∧ all.isDone :=
  ⟨by decide +kernel, by decide +kernel, by decide +kernel,
    (feed_chunkwise 13 .utf8 .empty cutTitle).2.2.2 _ _ (by decide +kernel)⟩

end TitleScanner

end LinkDigest
