import LinkDigest.Text.Charset
import LinkDigest.Text.CodeRange
import LinkDigest.Text.Utf16
import LinkDigest.Text.Utf8

/-!
# Decoding

The text of bytes in any character set of the web. Sets that write most characters with two or
more bytes number them, and an index of a standard has the character of each number. The
indexes come from outside; whatever bytes write no character is read as U+FFFD.
-/

namespace LinkDigest.Text

/-- The characters of the standards for East Asian texts, by their numbers. -/
structure Indexes where
  jis0208 : Nat → Option Char
  jis0212 : Nat → Option Char
  /-- Characters of two bytes in `gb18030`. -/
  gb18030 : Nat → Option Char
  /-- Characters of four bytes in `gb18030`, but for those of the supplementary planes. -/
  gb18030Ranges : Nat → Option Char
  big5 : Nat → Option Char
  eucKr : Nat → Option Char

/-- Without any characters. -/
def Indexes.empty : Indexes :=
  ⟨fun _ => none, fun _ => none, fun _ => none, fun _ => none, fun _ => none, fun _ => none⟩

/-! ## Reading with a look ahead -/

/-- What is read at a byte: some characters, and how many of the bytes behind it belong to
them. -/
abbrev Lookahead := UInt8 → List UInt8 → List Char × Nat

/-- The text of bytes, of which so many at the front belong to what has been read. -/
def readWith (look : Lookahead) : Nat → List UInt8 → List Char
  | _, [] => []
  | taken + 1, _ :: rest => readWith look taken rest
  | 0, byte :: rest => (look byte rest).1 ++ readWith look (look byte rest).2 rest

@[simp] theorem readWith_length (look : Lookahead) (bytes : List UInt8) :
    readWith look bytes.length bytes = [] := by
  induction bytes with
  | nil => rfl
  | cons byte rest ih => exact ih

/-- What stands for bytes that write no character. -/
def unreadable : List Char := ['\ufffd']

/-- What is read at bytes of which the last one has just been looked at: the characters that
they write, if they do. Otherwise a last byte of ASCII is not taken, and read by itself. -/
def complete (chars : Option (List Char)) (last : UInt8) (taken : Nat) : List Char × Nat :=
  match chars with
  | some chars => (chars, taken)
  | none => (unreadable, if last.toNat < 0x80 then taken - 1 else taken)

theorem complete_none {last : UInt8} (h : last.toNat < 0x80) (taken : Nat) :
    complete none last taken = (unreadable, taken - 1) := by
  simp [complete, h]

theorem complete_taken_le (chars : Option (List Char)) (last : UInt8) (taken : Nat) :
    (complete chars last taken).2 ≤ taken := by
  unfold complete
  split
  · exact Nat.le_refl taken
  · split <;> simp

/-! ## Pairs of bytes -/

/-- The place of a byte in the ranges of bytes that there may be. -/
def column? : List CodeRange → Nat → Option Nat
  | [], _ => none
  | range :: rest, byte =>
    if range.contains byte then some (byte - range.first)
    else (column? rest byte).map (range.last - range.first + 1 + ·)

/-- How a set numbers its pairs: row by row, each row by its second bytes. -/
structure PairGrid where
  firsts : List CodeRange
  seconds : List CodeRange
deriving DecidableEq, Repr

namespace PairGrid

/-- Whether a byte is the first one of pairs. -/
def begins (grid : PairGrid) (byte : Nat) : Bool := grid.firsts.any (·.contains byte)

/-- The length of a row. -/
def width (grid : PairGrid) : Nat :=
  grid.seconds.foldl (fun sum range => sum + (range.last - range.first + 1)) 0

/-- The number of a pair. -/
def number? (grid : PairGrid) (first second : Nat) : Option Nat := do
  return (← column? grid.firsts first) * grid.width + (← column? grid.seconds second)

end PairGrid

/-- The half-width katakana of a byte from 0xA1 to 0xDF. -/
def katakana? (byte : Nat) : Option Char :=
  if 0xA1 ≤ byte ∧ byte ≤ 0xDF then some (Char.ofNat (0xFF61 + (byte - 0xA1))) else none

/-- A set whose characters have one or two bytes. -/
structure PairSet where
  grid : PairGrid
  /-- The characters beyond ASCII that one byte writes. -/
  single? : Nat → Option Char
  /-- The characters of a pair, by its number. -/
  pair? : Nat → Option (List Char)

namespace PairSet

/-- The characters of a pair. -/
def chars? (set : PairSet) (first second : UInt8) : Option (List Char) :=
  (set.grid.number? first.toNat second.toNat).bind set.pair?

/-- What is read at the first byte of a pair. -/
def lookPair (set : PairSet) (first : UInt8) : List UInt8 → List Char × Nat
  | [] => (unreadable, 0)
  | second :: _ => complete (set.chars? first second) second 1

/-- What is read at a byte. -/
def look (set : PairSet) (byte : UInt8) (rest : List UInt8) : List Char × Nat :=
  if byte.toNat < 0x80 then ([Char.ofNat byte.toNat], 0)
  else match set.single? byte.toNat with
    | some c => ([c], 0)
    | none =>
      if set.grid.begins byte.toNat then set.lookPair byte rest else (unreadable, 0)

/-- Shift_JIS, with characters for private use. -/
def shiftJis (indexes : Indexes) : PairSet where
  grid := ⟨[⟨0x81, 0x9F⟩, ⟨0xE0, 0xFC⟩], [⟨0x40, 0x7E⟩, ⟨0x80, 0xFC⟩]⟩
  single? byte := if byte = 0x80 then some '\u0080' else katakana? byte
  pair? number :=
    if 8836 ≤ number ∧ number ≤ 10715 then some [Char.ofNat (0xE000 + (number - 8836))]
    else (indexes.jis0208 number).map ([·])

def eucKr (indexes : Indexes) : PairSet where
  grid := ⟨[⟨0x81, 0xFE⟩], [⟨0x41, 0xFE⟩]⟩
  single? _ := none
  pair? number := (indexes.eucKr number).map ([·])

/-- Big5, in which four pairs are a letter with an accent that has no character of its own. -/
def big5 (indexes : Indexes) : PairSet where
  grid := ⟨[⟨0x81, 0xFE⟩], [⟨0x40, 0x7E⟩, ⟨0xA1, 0xFE⟩]⟩
  single? _ := none
  pair? number :=
    if number = 1133 then some ['Ê', '\u0304']
    else if number = 1135 then some ['Ê', '\u030c']
    else if number = 1164 then some ['ê', '\u0304']
    else if number = 1166 then some ['ê', '\u030c']
    else (indexes.big5 number).map ([·])

/-- GBK: what `gb18030` writes with one byte or two. -/
def gbk (indexes : Indexes) : PairSet where
  grid := ⟨[⟨0x81, 0xFE⟩], [⟨0x40, 0x7E⟩, ⟨0x80, 0xFE⟩]⟩
  single? byte := if byte = 0x80 then some '€' else none
  pair? number := (indexes.gb18030 number).map ([·])

/-- EUC-JP, without what is written behind 0x8E and 0x8F. -/
def eucJp (indexes : Indexes) : PairSet where
  grid := ⟨[⟨0xA1, 0xFE⟩], [⟨0xA1, 0xFE⟩]⟩
  single? _ := none
  pair? number := (indexes.jis0208 number).map ([·])

end PairSet

/-! ## Four bytes, and three -/

/-- Whether a byte is a figure. -/
def isFigure (byte : UInt8) : Bool := 0x30 ≤ byte && byte ≤ 0x39

/-- Whether a byte may be the first of several. -/
def isHigh (byte : UInt8) : Bool := 0x81 ≤ byte && byte ≤ 0xFE

/-- The character of four bytes, by its number. -/
def fourBytes? (indexes : Indexes) (number : Nat) : Option Char :=
  if 39419 < number ∧ number < 189000 ∨ 1237575 < number then none
  else if number = 7457 then some '\ue7c7'
  else if number < 189000 then indexes.gb18030Ranges number
  else some (Char.ofNat (0x10000 + (number - 189000)))

/-- What `gb18030` reads at the first of four bytes, behind the second. Of bytes that are not
four only the first one is taken. -/
def lookFourBytes (indexes : Indexes) (first second : UInt8) : List UInt8 → List Char × Nat
  | [] => (unreadable, 1)
  | [third] => (unreadable, if isHigh third then 2 else 0)
  | third :: fourth :: _ =>
    if isHigh third && isFigure fourth then
      let number := (((first.toNat - 0x81) * 10 + (second.toNat - 0x30)) * 126 +
        (third.toNat - 0x81)) * 10 + (fourth.toNat - 0x30)
      (((fourBytes? indexes number).map ([·])).getD unreadable, 3)
    else (unreadable, 0)

/-- What `gb18030` reads at a byte. -/
def lookGb18030 (indexes : Indexes) (first : UInt8) (rest : List UInt8) : List Char × Nat :=
  match rest with
  | [] => (PairSet.gbk indexes).look first []
  | second :: behind =>
    if isHigh first && isFigure second then lookFourBytes indexes first second behind
    else (PairSet.gbk indexes).look first rest

/-- What EUC-JP reads at 0x8E. -/
def lookKatakana : List UInt8 → List Char × Nat
  | [] => (unreadable, 0)
  | second :: _ => complete ((katakana? second.toNat).map ([·])) second 1

/-- The character of a pair of the second standard. -/
def supplement? (indexes : Indexes) (second third : UInt8) : Option Char :=
  ((PairSet.eucJp indexes).grid.number? second.toNat third.toNat).bind indexes.jis0212

/-- What EUC-JP reads at 0x8F. -/
def lookSupplement (indexes : Indexes) : List UInt8 → List Char × Nat
  | [] => (unreadable, 0)
  | second :: rest =>
    if (PairSet.eucJp indexes).grid.begins second.toNat then
      match rest with
      | [] => (unreadable, 1)
      | third :: _ => complete ((supplement? indexes second third).map ([·])) third 2
    else complete none second 1

/-- What EUC-JP reads at a byte. -/
def lookEucJp (indexes : Indexes) (first : UInt8) (rest : List UInt8) : List Char × Nat :=
  if first = 0x8E then lookKatakana rest
  else if first = 0x8F then lookSupplement indexes rest
  else (PairSet.eucJp indexes).look first rest

/-! ## Escape sequences -/

/-- The modes of the set that switches by escape sequences. -/
inductive EscapeMode where
  | ascii
  | roman
  | katakana
  | pairs
deriving DecidableEq, Repr

/-- The mode that two bytes behind the escape switch to. -/
def escapeMode? : List UInt8 → Option EscapeMode
  | 0x28 :: 0x42 :: _ => some .ascii
  | 0x28 :: 0x4A :: _ => some .roman
  | 0x28 :: 0x49 :: _ => some .katakana
  | 0x24 :: 0x40 :: _ => some .pairs
  | 0x24 :: 0x42 :: _ => some .pairs
  | _ => none

/-- The byte that begins an escape sequence. -/
def escape : UInt8 := 0x1B

/-- The pairs between escape sequences. -/
def escapedGrid : PairGrid := ⟨[⟨0x21, 0x7E⟩], [⟨0x21, 0x7E⟩]⟩

/-- What is read at a byte in a mode. A pair that an escape sequence breaks off ends before
it. -/
def EscapeMode.look (mode : EscapeMode) (indexes : Indexes) (byte : UInt8) (rest : List UInt8) :
    List Char × Nat :=
  let code := byte.toNat
  let isPlain := code < 0x80 && code != 0x0E && code != 0x0F
  match mode with
  | .ascii => (if isPlain then [Char.ofNat code] else unreadable, 0)
  | .roman =>
    (if code = 0x5C then ['¥'] else if code = 0x7E then ['‾']
      else if isPlain then [Char.ofNat code] else unreadable, 0)
  | .katakana =>
    (if 0x21 ≤ code ∧ code ≤ 0x5F then [Char.ofNat (0xFF61 + (code - 0x21))] else unreadable, 0)
  | .pairs =>
    if escapedGrid.begins code then
      match rest with
      | second :: _ =>
        if second = escape then (unreadable, 0)
        else
          (match (escapedGrid.number? code second.toNat).bind indexes.jis0208 with
            | some c => [c]
            | none => unreadable, 1)
      | [] => (unreadable, 0)
    else (unreadable, 0)

/-- The text of bytes that switch modes by escape sequences, of which so many at the front
belong to what has been read. Two switches with nothing between them are a fault. -/
def escapedFrom (indexes : Indexes) (mode : EscapeMode) (switched : Bool) :
    Nat → List UInt8 → List Char
  | _, [] => []
  | taken + 1, _ :: rest => escapedFrom indexes mode switched taken rest
  | 0, byte :: rest =>
    if byte = escape then
      match escapeMode? rest with
      | some next => (if switched then unreadable else []) ++ escapedFrom indexes next true 2 rest
      | none => unreadable ++ escapedFrom indexes mode false 0 rest
    else
      let found := mode.look indexes byte rest
      found.1 ++ escapedFrom indexes mode false found.2 rest

namespace Charset

/-- The text of bytes in a character set. A mark of the byte order is a
character like any other. -/
def decode (charset : Charset) (indexes : Indexes) (bytes : List UInt8) : List Char :=
  match charset with
  | .utf8 => Utf8.decode bytes
  | .utf16le => Utf16.decode false bytes
  | .utf16be => Utf16.decode true bytes
  | .singleByte set => set.decode bytes
  | .gbk | .gb18030 => readWith (lookGb18030 indexes) 0 bytes
  | .big5 => readWith (PairSet.big5 indexes).look 0 bytes
  | .eucKr => readWith (PairSet.eucKr indexes).look 0 bytes
  | .eucJp => readWith (lookEucJp indexes) 0 bytes
  | .shiftJis => readWith (PairSet.shiftJis indexes).look 0 bytes
  | .iso2022Jp => escapedFrom indexes .ascii false 0 bytes
  | .userDefined =>
    bytes.map fun byte =>
      if byte.toNat < 0x80 then Char.ofNat byte.toNat else Char.ofNat (0xF780 + byte.toNat - 0x80)
  | .replacement => if bytes.isEmpty then [] else unreadable

/-- A pair whose second byte is a letter of ASCII by itself. -/
example :
    let te number := if number = 413 then some 'テ' else none
    shiftJis.decode { Indexes.empty with jis0208 := te } [0x83, 0x65, 0x65, 0x84, 0x65] =
      ['テ', 'e', '\ufffd', 'e'] := by
  decide

end Charset

end LinkDigest.Text
