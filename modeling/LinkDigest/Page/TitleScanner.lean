import LinkDigest.Text.Blank
import LinkDigest.Text.Decode

/-!
# The title scanner

A page is read byte by byte until its title has been seen, so that no more of
it need be fetched. The opening tag may be in letters of either case and hold
blanks before its name; it is looked for in the first bytes only. The title
ends at the next tag, or when there is too much of it.
-/

namespace LinkDigest

open LinkDigest.Text

/-- Where a scanner stands. -/
inductive ScanStage where
  /-- Looking for the tag, of which so many bytes are matched. -/
  | seeking (matched : Nat)
  /-- In the title, of which these bytes have come, the last one first. -/
  | reading (collected : List UInt8)
  /-- Behind the title. -/
  | found (collected : List UInt8)
  /-- The tag was not where it was looked for. -/
  | exhausted
deriving DecidableEq, Repr

/-- A scanner for the title of one page. -/
structure TitleScanner where
  /-- How many bytes the tag is looked for in. -/
  limit : Nat
  charset : Charset
  indexes : Indexes
  /-- How many bytes it has been looked for in. -/
  consumed : Nat
  stage : ScanStage

namespace TitleScanner

/-- The opening tag, `<title>`, without blanks and in small letters. -/
def tag : List UInt8 := [0x3C, 0x74, 0x69, 0x74, 0x6C, 0x65, 0x3E]

/-- The byte that begins every tag. -/
def tagOpen : UInt8 := 0x3C

/-- The most bytes a title has. -/
def maxTitleBytes : Nat := 1024

/-- Before the first byte. -/
def new (limit : Nat) (charset : Charset) (indexes : Indexes := .empty) : TitleScanner :=
  ⟨limit, charset, indexes, 0, .seeking 0⟩

/-- Blanks within a tag. -/
def isTagBlank (byte : UInt8) : Bool :=
  byte == 0x20 || byte == 0x09 || byte == 0x0A || byte == 0x0C || byte == 0x0D

/-- The byte, if it is a capital letter as a small one. -/
def lowerByte (byte : UInt8) : UInt8 :=
  if 0x41 ≤ byte ∧ byte ≤ 0x5A then byte + 0x20 else byte

/-- Where a byte of the tag, or one that is none, leads to. -/
def seek (matched : Nat) (byte : UInt8) : ScanStage :=
  if matched = 1 ∧ isTagBlank byte then .seeking matched
  else if tag[matched]? = some (lowerByte byte) then
    if matched + 1 = tag.length then .reading [] else .seeking (matched + 1)
  else .seeking (if byte = tagOpen then 1 else 0)

/-- Where a byte of the title leads to. -/
def collect (collected : List UInt8) (byte : UInt8) : ScanStage :=
  if byte = tagOpen ∨ maxTitleBytes ≤ collected.length then .found collected
  else .reading (byte :: collected)

/-- One byte more. -/
def step (s : TitleScanner) (byte : UInt8) : TitleScanner :=
  match s.stage with
  | .seeking matched =>
    if s.limit ≤ s.consumed then { s with stage := .exhausted }
    else { s with consumed := s.consumed + 1, stage := seek matched byte }
  | .reading collected => { s with stage := collect collected byte }
  | .found _ => s
  | .exhausted => s

/-- Some bytes more. -/
def feed (s : TitleScanner) (bytes : List UInt8) : TitleScanner := bytes.foldl step s

/-- Whether no byte can change the title any more. -/
def isDone (s : TitleScanner) : Bool :=
  match s.stage with
  | .seeking _ => false
  | .reading _ => false
  | .found _ => true
  | .exhausted => true

/-- The title that bytes write; none if it is blank. -/
def decodeTitle? (charset : Charset) (indexes : Indexes) (bytes : List UInt8) :
    Option (List Char) :=
  let title := trim (charset.decode indexes bytes)
  if title.isEmpty then none else some title

/-- The title, if the page ends here. -/
def finish? (s : TitleScanner) : Option (List Char) :=
  match s.stage with
  | .seeking _ => none
  | .reading collected => decodeTitle? s.charset s.indexes collected.reverse
  | .found collected => decodeTitle? s.charset s.indexes collected.reverse
  | .exhausted => none

theorem feed_append (s : TitleScanner) (xs ys : List UInt8) :
    s.feed (xs ++ ys) = (s.feed xs).feed ys :=
  List.foldl_append

theorem step_of_isDone {s : TitleScanner} (h : s.isDone) (byte : UInt8) : s.step byte = s := by
  unfold step
  unfold isDone at h
  split <;> simp_all

theorem feed_of_isDone {s : TitleScanner} (h : s.isDone) (bytes : List UInt8) :
    s.feed bytes = s := by
  induction bytes with
  | nil => rfl
  | cons byte bytes ih =>
    change (s.step byte).feed bytes = s
    rw [step_of_isDone h]
    exact ih

end TitleScanner

/-- The title of a whole document in UTF-8. -/
def scanTitle? (document : List UInt8) (limit : Nat) : Option (List Char) :=
  ((TitleScanner.new limit .utf8).feed document).finish?

end LinkDigest
