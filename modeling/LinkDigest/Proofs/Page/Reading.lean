import LinkDigest.Page.Basic

/-!
# Reading a page

How a page is cut into chunks does not matter: what reading comes to depends on
all its bytes one after the other, and on what comes after them only where they do
not settle the title.
-/

namespace LinkDigest

/-- The title that was read, if there is one. -/
def Reading.title? : Reading → Option (List Char)
  | .read title _ => title
  | .failed _ | .stalled => none

namespace Page

/-- What a scanner makes of the end of a page. -/
def endOf (scanner : TitleScanner) : PageEnd → Reading
  | .complete => readingOf scanner
  | .failed error => .failed error
  | .stalled => .stalled

/-- Reading chunks is reading all their bytes and then, if these do not settle the
title, the end. -/
theorem readChunks_eq (scanner : TitleScanner) (h : scanner.isDone = false) (ending : PageEnd)
    (chunks : List (List UInt8)) :
    readChunks scanner ending chunks =
      if (scanner.feed chunks.flatten).isDone then readingOf (scanner.feed chunks.flatten)
      else endOf (scanner.feed chunks.flatten) ending := by
  induction chunks generalizing scanner with
  | nil =>
    have hnothing : scanner.feed [] = scanner := rfl
    rw [List.flatten_nil, hnothing, h]
    cases ending <;> rfl
  | cons chunk rest ih =>
    rw [List.flatten_cons, TitleScanner.feed_append]
    unfold readChunks
    simp only
    cases hdone : (scanner.feed chunk).isDone with
    | false => exact ih (scanner.feed chunk) hdone
    | true => simp only [TitleScanner.feed_of_isDone hdone, hdone, if_true]

theorem read_eq (page : Page) (limit : Nat) (indexes : Text.Indexes) :
    page.read limit indexes =
      let scanner := (TitleScanner.new limit page.charset indexes).feed page.chunks.flatten
      if scanner.isDone then readingOf scanner else endOf scanner page.ending :=
  readChunks_eq _ rfl ..

/-- The title that stands on a page, as it stands there: the one that a scanner
finds in all its bytes. There is none if the page breaks off before that. -/
def rawTitle? (page : Page) (limit : Nat) (indexes : Text.Indexes) : Option (List Char) :=
  let scanner := (TitleScanner.new limit page.charset indexes).feed page.chunks.flatten
  if scanner.isDone ∨ page.ending = .complete then scanner.finish? else none

/-- Reading a page leads to the title that stands on it, and to no other. -/
theorem title?_read (page : Page) (limit : Nat) (indexes : Text.Indexes) :
    (page.read limit indexes).title? = page.rawTitle? limit indexes := by
  rw [read_eq]
  unfold rawTitle?
  simp only
  by_cases hdone :
      ((TitleScanner.new limit page.charset indexes).feed page.chunks.flatten).isDone
  · rw [if_pos hdone, if_pos (.inl hdone)]
    rfl
  · rw [if_neg hdone]
    cases hending : page.ending with
    | complete => simp [endOf, readingOf, Reading.title?]
    | failed error => simp [endOf, Reading.title?, hdone]
    | stalled => simp [endOf, Reading.title?, hdone]

end Page

end LinkDigest
