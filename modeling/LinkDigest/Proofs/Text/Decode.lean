import LinkDigest.Proofs.Text.Utf8
import LinkDigest.Text.Decode

/-!
# A sign behind other bytes

In most character sets there are bytes of ASCII that are their own characters whatever stands
before them, so that one of them more at the end of some bytes is one sign more at the end of
their text. A letter may instead complete a pair; the exclamation mark never does.
-/

namespace LinkDigest.Text

namespace Utf8

/-- A character that is begun is completed by bytes beyond ASCII only. -/
theorem le_of_mem_step {pending : Option Pending} (hpending : ∀ p ∈ pending, 0x80 ≤ p.low)
    {byte : UInt8} : ∀ p ∈ (step pending byte.toNat).2, 0x80 ≤ p.low := by
  intro p hp
  cases pending with
  | none => exact (le_of_mem_first _ byte.toNat_lt p hp).2
  | some q =>
    unfold step at hp
    simp only at hp
    split at hp
    · split at hp
      · cases hp
      · rw [← Option.mem_some_iff.mp hp]
    · exact (le_of_mem_first _ byte.toNat_lt p hp).2

theorem decodeFrom_append_ascii {pending : Option Pending} (hpending : ∀ p ∈ pending, 0x80 ≤ p.low)
    (bytes : List UInt8) {byte : UInt8} (hbyte : byte.toNat < 0x80) :
    decodeFrom pending (bytes ++ [byte]) =
      decodeFrom pending bytes ++ [Char.ofNat byte.toNat] := by
  induction bytes generalizing pending with
  | nil =>
    cases pending with
    | none => simp [decodeFrom, step, first, hbyte]
    | some p =>
      have hlow : ¬ (p.low ≤ byte.toNat ∧ byte.toNat ≤ p.high) := fun hrange =>
        absurd (hpending p rfl) (by omega)
      simp [decodeFrom, step, first, hbyte, hlow]
  | cons own bytes ih =>
    simp only [List.cons_append, decodeFrom, ih (le_of_mem_step hpending), List.append_assoc]

theorem decode_append_ascii (bytes : List UInt8) {byte : UInt8} (hbyte : byte.toNat < 0x80) :
    decode (bytes ++ [byte]) = decode bytes ++ [Char.ofNat byte.toNat] :=
  decodeFrom_append_ascii (by simp) bytes hbyte

end Utf8

/-! ## Sets with a look ahead -/

/-- Whether a byte is a character wherever it stands. At a byte before it no more is taken than
there is, and as much as without it, unless what is begun there breaks off. -/
structure Lookahead.Parts (look : Lookahead) (sign : UInt8) (c : Char) : Prop where
  alone : look sign [] = ([c], 0)
  taken_le (byte : UInt8) (rest : List UInt8) : (look byte rest).2 ≤ rest.length
  stable (byte : UInt8) (rest : List UInt8) : look byte (rest ++ [sign]) = look byte rest ∨
    look byte rest = (unreadable, rest.length) ∧
      ∃ taken ≤ rest.length, look byte (rest ++ [sign]) = (unreadable, taken)

/-- The sign is the last character of the text, and what is read before it begins with what is
read without it: bytes that broke off may be read one by one. -/
theorem Lookahead.Parts.readWith_append {look : Lookahead} {sign : UInt8} {c : Char}
    (h : look.Parts sign c) (bytes : List UInt8) {taken : Nat} (htaken : taken ≤ bytes.length) :
    ∃ more, readWith look taken (bytes ++ [sign]) = readWith look taken bytes ++ more ++ [c] := by
  induction bytes generalizing taken with
  | nil =>
    obtain rfl : taken = 0 := Nat.le_zero.mp htaken
    exact ⟨[], by simp [readWith, h.alone]⟩
  | cons byte rest ih =>
    cases taken with
    | succ taken => exact ih (Nat.le_of_succ_le_succ htaken)
    | zero =>
      simp only [List.cons_append, readWith]
      rcases h.stable byte rest with hsame | ⟨hbroken, taken, hle, hread⟩
      · obtain ⟨more, hmore⟩ := ih (h.taken_le byte rest)
        exact ⟨more, by rw [hsame, hmore]; simp⟩
      · obtain ⟨more, hmore⟩ := ih hle
        exact ⟨readWith look taken rest ++ more, by rw [hbroken, hread, hmore]; simp⟩

theorem PairGrid.number?_eq_none {grid : PairGrid} {second : Nat}
    (h : column? grid.seconds second = none) (first : Nat) : grid.number? first second = none := by
  simp [number?, h]

namespace PairSet

variable {set : PairSet} {sign : UInt8}

theorem chars?_eq_none (h : column? set.grid.seconds sign.toNat = none) (first : UInt8) :
    set.chars? first sign = none := by
  rw [chars?, PairGrid.number?_eq_none h]
  rfl

theorem lookPair_taken_le (set : PairSet) (first : UInt8) (rest : List UInt8) :
    (set.lookPair first rest).2 ≤ rest.length := by
  cases rest with
  | nil => exact Nat.le_refl 0
  | cons second rest =>
    have hone : 1 ≤ (second :: rest).length := Nat.succ_pos _
    exact (complete_taken_le _ second 1).trans hone

/-- Behind the first byte of a pair the sign is read by itself. -/
theorem lookPair_append (hsign : sign.toNat < 0x80)
    (hsecond : column? set.grid.seconds sign.toNat = none) (first : UInt8) (rest : List UInt8) :
    set.lookPair first (rest ++ [sign]) = set.lookPair first rest := by
  cases rest with
  | nil => simp [lookPair, chars?_eq_none hsecond, complete_none hsign]
  | cons second rest => rfl

theorem parts_look (hsign : sign.toNat < 0x80)
    (hsecond : column? set.grid.seconds sign.toNat = none) :
    Lookahead.Parts set.look sign (Char.ofNat sign.toNat) where
  alone := if_pos hsign
  taken_le byte rest := by
    unfold look
    split
    · exact Nat.zero_le _
    · split
      · exact Nat.zero_le _
      · split
        · exact set.lookPair_taken_le byte rest
        · exact Nat.zero_le _
  stable byte rest := .inl (by unfold look; rw [lookPair_append hsign hsecond])

end PairSet

/-! ## Four bytes, and three -/

section

variable (indexes : Indexes)

theorem lookFourBytes_taken_le (first second : UInt8) (rest : List UInt8) :
    (lookFourBytes indexes first second rest).2 ≤ rest.length + 1 := by
  unfold lookFourBytes
  split
  · exact Nat.le_refl 1
  · split <;> simp
  · split <;> simp

/-- Where four bytes break off at the sign, what stands between is read anew. -/
theorem lookFourBytes_append (first second : UInt8) (rest : List UInt8) :
    lookFourBytes indexes first second (rest ++ [0x21]) =
        lookFourBytes indexes first second rest ∨
      lookFourBytes indexes first second rest = (unreadable, rest.length + 1) ∧
        lookFourBytes indexes first second (rest ++ [0x21]) = (unreadable, 0) := by
  match rest with
  | [] => exact .inr ⟨rfl, rfl⟩
  | [third] =>
    have hread : lookFourBytes indexes first second [third, 0x21] = (unreadable, 0) :=
      if_neg (by simp [isFigure])
    cases hhigh : isHigh third with
    | true => exact .inr ⟨by simp [lookFourBytes, hhigh], hread⟩
    | false => exact .inl (hread.trans (by simp [lookFourBytes, hhigh]))
  | third :: fourth :: rest => exact .inl rfl

theorem parts_gbk : Lookahead.Parts (PairSet.gbk indexes).look 0x21 '!' :=
  PairSet.parts_look (by decide) rfl

theorem parts_lookGb18030 : Lookahead.Parts (lookGb18030 indexes) 0x21 '!' where
  alone := rfl
  taken_le first rest := by
    cases rest with
    | nil => exact (parts_gbk indexes).taken_le first []
    | cons second rest =>
      unfold lookGb18030
      simp only
      split
      · exact lookFourBytes_taken_le indexes first second rest
      · exact (parts_gbk indexes).taken_le first (second :: rest)
  stable first rest := by
    cases rest with
    | nil =>
      have hfour : (isHigh first && isFigure 0x21) = false := by simp [isFigure]
      simp only [lookGb18030, List.nil_append, hfour, Bool.false_eq_true, if_false]
      exact (parts_gbk indexes).stable first []
    | cons second rest =>
      simp only [lookGb18030, List.cons_append]
      split
      · rcases lookFourBytes_append indexes first second rest with hsame | ⟨hbroken, hread⟩
        · exact .inl hsame
        · exact .inr ⟨hbroken, 0, Nat.zero_le _, hread⟩
      · exact (parts_gbk indexes).stable first (second :: rest)

theorem lookKatakana_taken_le (rest : List UInt8) : (lookKatakana rest).2 ≤ rest.length := by
  cases rest with
  | nil => exact Nat.le_refl 0
  | cons second rest => exact (complete_taken_le _ second 1).trans (Nat.succ_pos _)

theorem lookKatakana_append (rest : List UInt8) :
    lookKatakana (rest ++ [0x21]) = lookKatakana rest := by
  cases rest with
  | nil => rfl
  | cons second rest => rfl

theorem lookSupplement_taken_le (rest : List UInt8) :
    (lookSupplement indexes rest).2 ≤ rest.length := by
  cases rest with
  | nil => exact Nat.le_refl 0
  | cons second rest =>
    unfold lookSupplement
    simp only
    split
    · cases rest with
      | nil => exact Nat.le_refl 1
      | cons third rest => exact (complete_taken_le _ third 2).trans (by simp)
    · exact (complete_taken_le _ second 1).trans (by simp)

theorem lookSupplement_append (rest : List UInt8) :
    lookSupplement indexes (rest ++ [0x21]) = lookSupplement indexes rest := by
  match rest with
  | [] => rfl
  | [second] =>
    have hnone : supplement? indexes second 0x21 = none := by
      rw [supplement?, PairGrid.number?_eq_none rfl]
      rfl
    simp [lookSupplement, hnone, complete_none]
  | second :: third :: rest => rfl

theorem parts_eucJp : Lookahead.Parts (PairSet.eucJp indexes).look 0x21 '!' :=
  PairSet.parts_look (by decide) rfl

theorem parts_lookEucJp : Lookahead.Parts (lookEucJp indexes) 0x21 '!' where
  alone := rfl
  taken_le first rest := by
    unfold lookEucJp
    split
    · exact lookKatakana_taken_le rest
    · split
      · exact lookSupplement_taken_le indexes rest
      · exact (parts_eucJp indexes).taken_le first rest
  stable first rest := by
    unfold lookEucJp
    split
    · exact .inl (lookKatakana_append rest)
    · split
      · exact .inl (lookSupplement_append indexes rest)
      · exact (parts_eucJp indexes).stable first rest

end

namespace Charset

/-- Whether a byte of ASCII that stands between characters is its character. -/
def isAsciiCompatible : Charset → Bool
  | .utf16le | .utf16be | .iso2022Jp | .replacement => false
  | _ => true

/-- Behind an exclamation mark there is one at the end of the text, and nothing that was read
before is lost. -/
theorem decode_append_mark {charset : Charset} (h : charset.isAsciiCompatible)
    (indexes : Indexes) (bytes : List UInt8) :
    ∃ more, charset.decode indexes (bytes ++ [0x21]) =
      charset.decode indexes bytes ++ more ++ ['!'] := by
  cases charset with
  | utf8 =>
    exact ⟨[], by rw [List.append_nil]; exact Utf8.decode_append_ascii bytes (by decide)⟩
  | singleByte set => exact ⟨[], by simp [decode, SingleByte.decode, SingleByte.decodeByte]⟩
  | gbk => exact (parts_lookGb18030 indexes).readWith_append bytes (Nat.zero_le _)
  | gb18030 => exact (parts_lookGb18030 indexes).readWith_append bytes (Nat.zero_le _)
  | big5 => exact (PairSet.parts_look (by decide) rfl).readWith_append bytes (Nat.zero_le _)
  | eucKr => exact (PairSet.parts_look (by decide) rfl).readWith_append bytes (Nat.zero_le _)
  | shiftJis => exact (PairSet.parts_look (by decide) rfl).readWith_append bytes (Nat.zero_le _)
  | eucJp => exact (parts_lookEucJp indexes).readWith_append bytes (Nat.zero_le _)
  | userDefined => exact ⟨[], by simp [decode]⟩
  | utf16le | utf16be | iso2022Jp | replacement => cases h

end Charset

end LinkDigest.Text
