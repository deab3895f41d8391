import LinkDigest.Text.Blank
import LinkDigest.Time.Instant

/-!
# Timestamps

The written form of instants: date, time and offset from universal time. The
reader is generous: blanks may stand between the parts, leading zeros may be
left out, and letters may be small. The writer gives universal time, and of the
fraction three, six or nine places, or none.
-/

namespace LinkDigest.Timestamp

open LinkDigest.Text

/-! ## Reading -/

/-- The number a text begins with, of at most `most` figures, and what follows. -/
def number? (most : Nat) (text : List Char) : Option (Nat × List Char) :=
  let figures := (text.takeWhile Char.isDigit).take most
  if figures.isEmpty then none
  else some (figures.foldl (fun n c => n * 10 + (c.toNat - 48)) 0, text.drop figures.length)

/-- A number of one or two figures behind blanks, in its bounds. -/
def field? (low high : Nat) (text : List Char) : Option (Nat × List Char) := do
  let (value, rest) ← number? 2 (text.dropWhile isBlank)
  if low ≤ value ∧ value ≤ high then some (value, rest) else none

/-- What follows a mark, which may stand behind blanks. -/
def afterMark? (mark : Char) (text : List Char) : Option (List Char) :=
  match text.dropWhile isBlank with
  | c :: rest => if c = mark then some rest else none
  | [] => none

/-- A year, behind blanks. Only one with a sign has more than four figures. -/
def year? (text : List Char) : Option (Int × List Char) :=
  match text.dropWhile isBlank with
  | '-' :: rest => (number? rest.length rest).map fun (n, rest) => (-(n : Int), rest)
  | '+' :: rest => (number? rest.length rest).map fun (n, rest) => ((n : Int), rest)
  | rest => (number? 4 rest).map fun (n, rest) => ((n : Int), rest)

/-- The billionths that a fraction writes; places after the ninth do not count. -/
def fraction? (text : List Char) : Option (Nat × List Char) :=
  match text with
  | '.' :: rest =>
    let places := rest.takeWhile Char.isDigit
    if places.isEmpty then none
    else
      let kept := places.take 9
      let value := kept.foldl (fun n c => n * 10 + (c.toNat - 48)) 0
      some (value * Nat.pow 10 (9 - kept.length), rest.dropWhile Char.isDigit)
  | rest => some (0, rest)

/-- Two figures exactly, and what follows. -/
def pair? : List Char → Option (Nat × List Char)
  | a :: b :: rest =>
    if a.isDigit ∧ b.isDigit then some ((a.toNat - 48) * 10 + (b.toNat - 48), rest) else none
  | _ => none

/-- The seconds of an offset in hours and minutes, which is less than a day. -/
def offsetSeconds? (text : List Char) : Option (Int × List Char) := do
  let (hours, rest) ← pair? text
  let (minutes, rest) ← pair? (rest.dropWhile fun c => c == ':' || isBlank c)
  if hours < 24 ∧ minutes < 60 then some ((hours * 3600 + minutes * 60 : Nat), rest) else none

/-- An offset from universal time in seconds, and what follows. -/
def offset? (text : List Char) : Option (Int × List Char) :=
  if (text.take 3).map Char.toLower = ['u', 't', 'c'] then some (0, text.drop 3)
  else
    match text with
    | 'Z' :: rest => some (0, rest)
    | 'z' :: rest => some (0, rest)
    | '+' :: rest => offsetSeconds? rest
    | '-' :: rest => (offsetSeconds? rest).map fun (s, rest) => (-s, rest)
    | '−' :: rest => (offsetSeconds? rest).map fun (s, rest) => (-s, rest)
    | _ => none

/-- Whether a character stands between date and time. -/
def isSeparator (c : Char) : Bool := c == 'T' || c == 't' || c == ' '

/-- The date a text begins with, and what follows it. -/
def date? (text : List Char) : Option (Calendar.Date × List Char) := do
  let (year, rest) ← year? text
  let rest ← afterMark? '-' rest
  let (month, rest) ← field? 1 12 rest
  let rest ← afterMark? '-' rest
  let (day, rest) ← field? 1 31 rest
  if day ≤ Calendar.daysInMonth year month then some (⟨year, month, day⟩, rest) else none

/-- The second of the day and the billionths that a text begins with, and what
follows. A sixtieth second is an inserted one. -/
def timeOfDay? (text : List Char) : Option (Nat × Nat × List Char) := do
  let (hour, rest) ← field? 0 23 text
  let rest ← afterMark? ':' rest
  let (minute, rest) ← field? 0 59 rest
  let rest ← afterMark? ':' rest
  let (second, rest) ← field? 0 60 rest
  let (nanos, rest) ← fraction? rest
  let ofMinute := if second = 60 then 59 else second
  let inserted := if second = 60 then 1000000000 else 0
  return (hour * 3600 + minute * 60 + ofMinute, nanos + inserted, rest)

/-- The instant a text writes. -/
def parse? (text : List Char) : Option Instant := do
  let (date, rest) ← date? text
  match rest with
  | [] => none
  | separator :: rest =>
    if !isSeparator separator then none
    else
      let (second, nanos, rest) ← timeOfDay? rest
      let (offset, rest) ← offset? (rest.dropWhile isBlank)
      let midnight := date.toDays * 86400
      let localTime : Instant := ⟨midnight + second, nanos⟩
      let universal : Instant := ⟨midnight + second - offset, nanos⟩
      if rest.all isBlank ∧ localTime.hasDate ∧ universal.hasDate then some universal else none

/-! ## Writing -/

/-- A number with zeros in front up to a width. -/
def padded (width : Nat) (n : Nat) : List Char :=
  let figures := (toString n).toList
  List.replicate (width - figures.length) '0' ++ figures

/-- A year; one that has not four figures carries a sign. -/
def renderYear (year : Int) : List Char :=
  if 0 ≤ year ∧ year ≤ 9999 then padded 4 year.toNat
  else (if year < 0 then '-' else '+') :: padded 4 year.natAbs

/-- The places of a fraction, in groups of three as far as they are needed. -/
def renderFraction (nanos : Nat) : List Char :=
  if nanos = 0 then []
  else if nanos % 1000000 = 0 then '.' :: padded 3 (nanos / 1000000)
  else if nanos % 1000 = 0 then '.' :: padded 6 (nanos / 1000)
  else '.' :: padded 9 nanos

/-- The written form of an instant. -/
def render (t : Instant) : List Char :=
  let date := Calendar.Date.ofDays (t.seconds / 86400)
  let second := (t.seconds % 86400).toNat
  let inserted := 1000000000 ≤ t.nanos
  let ofMinute := if inserted then second % 60 + 1 else second % 60
  let nanos := if inserted then t.nanos - 1000000000 else t.nanos
  renderYear date.year ++ '-' :: padded 2 date.month ++ '-' :: padded 2 date.day ++
    'T' :: padded 2 (second / 3600) ++ ':' :: padded 2 (second / 60 % 60) ++
    ':' :: padded 2 ofMinute ++ renderFraction nanos ++ ['Z']

end LinkDigest.Timestamp
