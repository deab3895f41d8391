import LinkDigest.Text.Utf8
import Mathlib.Data.List.Infix

/-!
# Reading what was written in UTF-8

The bytes of a text are read as that text again, whatever follows them. Bytes that break
off within a character are read as the characters before it and one U+FFFD, however many
of its bytes there are: any of them could still have begun it.
-/

namespace LinkDigest.Text.Utf8

/-! ## One character -/

/-- Whether bytes complete a character begun to `c`. -/
inductive Completes : Pending → List UInt8 → Char → Prop where
  | last {p : Pending} {byte : UInt8} {c : Char} (howed : p.owed ≤ 1)
      (hrange : p.low ≤ byte.toNat ∧ byte.toNat ≤ p.high)
      (hchar : Char.ofNat (p.bits * 64 + (byte.toNat - 0x80)) = c) : Completes p [byte] c
  | more {p : Pending} {byte : UInt8} {bytes : List UInt8} {c : Char} (howed : ¬ p.owed ≤ 1)
      (hrange : p.low ≤ byte.toNat ∧ byte.toNat ≤ p.high)
      (hrest : Completes ⟨p.bits * 64 + (byte.toNat - 0x80), p.owed - 1, 0x80, 0xBF⟩ bytes c) :
      Completes p (byte :: bytes) c

namespace Completes

variable {p : Pending} {bytes : List UInt8} {c : Char}

theorem decodeFrom_append (h : Completes p bytes c) (rest : List UInt8) :
    decodeFrom (some p) (bytes ++ rest) = c :: decodeFrom none rest := by
  induction h with
  | last howed hrange hchar =>
    simp only [List.singleton_append, decodeFrom, step, if_pos hrange, if_pos howed, hchar]
  | more howed hrange hrest ih =>
    simp only [List.cons_append, decodeFrom, step, if_pos hrange, if_neg howed, ih,
      List.nil_append]

/-- Fewer bytes leave the character begun, which is one fault. -/
theorem decodeFrom_take (h : Completes p bytes c) {count : Nat} (hcount : count < bytes.length) :
    decodeFrom (some p) (bytes.take count) = [replacement] := by
  induction h generalizing count with
  | last howed hrange hchar =>
    obtain rfl : count = 0 := Nat.lt_one_iff.mp hcount
    rfl
  | more howed hrange hrest ih =>
    cases count with
    | zero => rfl
    | succ count =>
      have hrest := ih (Nat.lt_of_succ_lt_succ hcount)
      simp only [List.take_succ_cons, decodeFrom, step, if_pos hrange, if_neg howed, hrest,
        List.nil_append]

/-- The last byte of a character holds the last six bits of its code. -/
theorem ofLast {bits digit : Nat} (hdigit : digit < 0x40) (hcode : bits * 64 + digit = c.toNat) :
    Completes ⟨bits, 1, 0x80, 0xBF⟩ [UInt8.ofNat (digit + 0x80)] c := by
  have hbyte : (UInt8.ofNat (digit + 0x80)).toNat = digit + 0x80 :=
    UInt8.toNat_ofNat_of_lt' (show digit + 0x80 < 0x100 by omega)
  refine .last (Nat.le_refl 1) ?_ ?_
  · rw [hbyte]
    exact ⟨Nat.le_add_left _ _, Nat.add_le_add_right (Nat.le_of_lt_succ hdigit) 0x80⟩
  · rw [hbyte, Nat.add_sub_cancel, hcode, Char.ofNat_toNat]

/-- Each byte before the last one holds six bits more. -/
theorem ofNext {bits digit owed low high : Nat} (hdigit : digit < 0x40) (howed : 1 ≤ owed)
    (hrange : low ≤ digit + 0x80 ∧ digit + 0x80 ≤ high)
    (hrest : Completes ⟨bits * 64 + digit, owed, 0x80, 0xBF⟩ bytes c) :
    Completes ⟨bits, owed + 1, low, high⟩ (UInt8.ofNat (digit + 0x80) :: bytes) c := by
  have hbyte : (UInt8.ofNat (digit + 0x80)).toNat = digit + 0x80 :=
    UInt8.toNat_ofNat_of_lt' (show digit + 0x80 < 0x100 by omega)
  refine .more (by simp only; omega) ?_ ?_
  · rw [hbyte]
    exact hrange
  · rw [hbyte, Nat.add_sub_cancel]
    exact hrest

end Completes

/-- The first byte of three, and the range that it leaves to the second one. -/
theorem first_of_three : ∀ high < 0x10, first (high + 0xE0) =
    ([], some ⟨high, 2, if high = 0 then 0xA0 else 0x80, if high = 0xD then 0x9F else 0xBF⟩) := by
  decide

/-- The first byte of four, and the range that it leaves to the second one. -/
theorem first_of_four : ∀ high < 5, first (high + 0xF0) =
    ([], some ⟨high, 3, if high = 0 then 0x90 else 0x80, if high = 4 then 0x8F else 0xBF⟩) := by
  decide

theorem first_of_two : ∀ high < 0x20, 2 ≤ high →
    first (high + 0xC0) = ([], some ⟨high, 1, 0x80, 0xBF⟩) := by
  decide

/-- A character is written in one byte that is read as it, or in a byte that begins it and
bytes that complete it. -/
theorem utf8EncodeChar_cases (c : Char) :
    (∃ byte, String.utf8EncodeChar c = [byte] ∧ first byte.toNat = ([c], none)) ∨
    ∃ byte p bytes, String.utf8EncodeChar c = byte :: bytes ∧
      first byte.toNat = ([], some p) ∧ Completes p bytes c := by
  have hvalid : c.toNat < 0xD800 ∨ 0xDFFF < c.toNat ∧ c.toNat < 0x110000 := c.valid
  simp only [String.utf8EncodeChar, Char.toNat_val]
  have hbyte : ∀ code < 0x100, (UInt8.ofNat code).toNat = code := fun _ =>
    UInt8.toNat_ofNat_of_lt'
  split
  · refine .inl ⟨_, rfl, ?_⟩
    rw [hbyte _ (by omega), first, if_pos (by omega), Char.ofNat_toNat]
  split
  · have hfirst := first_of_two (c.toNat / 64 % 0x20) (by omega) (by omega)
    refine .inr ⟨_, _, _, rfl, (congrArg first (hbyte _ ?_)).trans hfirst, .ofLast ?_ ?_⟩
    all_goals omega
  split
  · have hfirst := first_of_three (c.toNat / 4096 % 0x10) (by omega)
    refine .inr ⟨_, _, _, rfl, (congrArg first (hbyte _ ?_)).trans hfirst,
      .ofNext ?_ ?_ ⟨?_, ?_⟩ (.ofLast ?_ ?_)⟩
    all_goals first | omega | split <;> omega
  · have hfirst := first_of_four (c.toNat / 262144 % 8) (by omega)
    refine .inr ⟨_, _, _, rfl, (congrArg first (hbyte _ ?_)).trans hfirst,
      .ofNext ?_ ?_ ⟨?_, ?_⟩ (.ofNext ?_ ?_ ⟨?_, ?_⟩ (.ofLast ?_ ?_))⟩
    all_goals first | omega | split <;> omega

/-! ## A whole text -/

@[simp] theorem encode_cons (c : Char) (text : List Char) :
    encode (c :: text) = String.utf8EncodeChar c ++ encode text := List.flatMap_cons

theorem decodeFrom_utf8EncodeChar_append (c : Char) (rest : List UInt8) :
    decodeFrom none (String.utf8EncodeChar c ++ rest) = c :: decodeFrom none rest := by
  rcases utf8EncodeChar_cases c with ⟨byte, hbytes, hfirst⟩ | ⟨byte, p, bytes, hbytes, hfirst, hrest⟩
  · rw [hbytes]
    simp only [List.singleton_append, decodeFrom, step, hfirst]
  · rw [hbytes]
    simp only [List.cons_append, decodeFrom, step, hfirst, List.nil_append,
      hrest.decodeFrom_append]

/-- Some bytes of a character, but not all, are one fault. -/
theorem decodeFrom_take_utf8EncodeChar {c : Char} {count : Nat} (hpos : 0 < count)
    (hcount : count < (String.utf8EncodeChar c).length) :
    decodeFrom none ((String.utf8EncodeChar c).take count) = [replacement] := by
  obtain ⟨count, rfl⟩ : ∃ before, count = before + 1 := ⟨count - 1, by omega⟩
  rcases utf8EncodeChar_cases c with ⟨byte, hbytes, hfirst⟩ | ⟨byte, p, bytes, hbytes, hfirst, hrest⟩
  · rw [hbytes, List.length_singleton] at hcount
    omega
  · rw [hbytes] at hcount ⊢
    simp only [List.take_succ_cons, decodeFrom, step, hfirst, List.nil_append]
    exact hrest.decodeFrom_take (Nat.lt_of_succ_lt_succ hcount)

/-- The bytes of a text are read as that text, whatever follows them. -/
theorem decode_encode_append (text : List Char) (rest : List UInt8) :
    decode (encode text ++ rest) = text ++ decode rest := by
  induction text with
  | nil => rfl
  | cons c text ih =>
    rw [encode_cons, List.append_assoc, decode, decodeFrom_utf8EncodeChar_append]
    exact congrArg (c :: ·) ih

theorem decode_encode (text : List Char) : decode (encode text) = text := by
  simpa [decode, decodeFrom] using decode_encode_append text []

theorem decode?_encode (text : List Char) : decode? (encode text) = some text := by
  simp [decode?, decode_encode]

/-- The bytes of a text tell which text it is. -/
theorem encode_injective : Function.Injective encode :=
  Function.LeftInverse.injective decode_encode

/-! ## Bytes of ASCII -/

/-- Only bytes beyond ASCII begin a character that bytes beyond ASCII complete. -/
theorem le_of_mem_first : ∀ byte < 0x100, ∀ p ∈ (first byte).2, 0x80 ≤ byte ∧ 0x80 ≤ p.low := by
  decide +kernel

theorem Completes.le {p : Pending} {bytes : List UInt8} {c : Char} (h : Completes p bytes c)
    (hlow : 0x80 ≤ p.low) : ∀ byte ∈ bytes, 0x80 ≤ byte.toNat := by
  induction h with
  | last howed hrange hchar =>
    intro byte hbyte
    obtain rfl := List.mem_singleton.mp hbyte
    exact Nat.le_trans hlow hrange.1
  | more howed hrange hrest ih =>
    exact List.forall_mem_cons.mpr ⟨Nat.le_trans hlow hrange.1, ih (Nat.le_refl 0x80)⟩

/-- A byte of ASCII among the bytes of a character is that character. -/
theorem eq_of_mem_utf8EncodeChar {c : Char} {byte : UInt8} (h : byte ∈ String.utf8EncodeChar c)
    (hascii : byte.toNat < 0x80) : Char.ofNat byte.toNat = c := by
  rcases utf8EncodeChar_cases c with ⟨own, hbytes, hfirst⟩ | ⟨own, p, bytes, hbytes, hfirst, hrest⟩
  · rw [hbytes, List.mem_singleton] at h
    rw [← h, first, if_pos hascii] at hfirst
    exact List.singleton_inj.mp (congrArg Prod.fst hfirst)
  · obtain ⟨hown, hlow⟩ := le_of_mem_first _ own.toNat_lt p (congrArg Prod.snd hfirst)
    have hbeyond : ∀ other ∈ own :: bytes, 0x80 ≤ other.toNat :=
      List.forall_mem_cons.mpr ⟨hown, hrest.le hlow⟩
    exact absurd hascii (Nat.not_lt.mpr (hbeyond byte (hbytes ▸ h)))

/-- A byte of ASCII in a text is a character of it. -/
theorem mem_of_mem_encode {text : List Char} {byte : UInt8} (h : byte ∈ encode text)
    (hascii : byte.toNat < 0x80) : Char.ofNat byte.toNat ∈ text := by
  obtain ⟨c, hc, hbyte⟩ := List.mem_flatMap.mp h
  rwa [eq_of_mem_utf8EncodeChar hbyte hascii]

/-! ## A text that is cut -/

/-- Whether `kept` is the longest part that a text begins with and that fits into so many
bytes. -/
structure IsLongestFit (room : Nat) (text kept : List Char) : Prop where
  isPrefix : kept <+: text
  fits : (encode kept).length ≤ room
  longest : ∀ other, other <+: text → (encode other).length ≤ room → other.length ≤ kept.length

/-- Whether a text has more than so many bytes and these end within a character. -/
def CutsCharacter (room : Nat) (text : List Char) : Prop :=
  room < (encode text).length ∧ ∀ whole, whole <+: text → (encode whole).length ≠ room

theorem exists_isLongestFit (room : Nat) (text : List Char) :
    ∃ kept, IsLongestFit room text kept := by
  induction text generalizing room with
  | nil => exact ⟨[], List.prefix_rfl, Nat.zero_le _, fun other hother _ => hother.length_le⟩
  | cons c text ih =>
    by_cases hroom : (String.utf8EncodeChar c).length ≤ room
    · obtain ⟨kept, hprefix, hfits, hlongest⟩ := ih (room - (String.utf8EncodeChar c).length)
      refine ⟨c :: kept, List.cons_prefix_cons.mpr ⟨rfl, hprefix⟩, ?_, fun other hother hother' => ?_⟩
      · rw [encode_cons, List.length_append]
        omega
      · cases other with
        | nil => exact Nat.zero_le _
        | cons d other =>
          obtain ⟨rfl, htail⟩ := List.cons_prefix_cons.mp hother
          rw [encode_cons, List.length_append] at hother'
          exact Nat.succ_le_succ (hlongest other htail (by omega))
    · refine ⟨[], List.nil_prefix, Nat.zero_le _, fun other hother hother' => ?_⟩
      cases other with
      | nil => exact Nat.le_refl _
      | cons d other =>
        obtain ⟨rfl, -⟩ := List.cons_prefix_cons.mp hother
        rw [encode_cons, List.length_append] at hother'
        omega

namespace IsLongestFit

variable {room : Nat} {text kept : List Char}

theorem encode_isPrefix {whole text : List Char} (h : whole <+: text) :
    encode whole <+: encode text := by
  obtain ⟨rest, rfl⟩ := h
  rw [encode_append]
  exact List.prefix_append _ _

/-- A character that does not fit any more ends what is kept. -/
theorem of_next {c : Char} {rest : List Char} (hfits : (encode kept).length ≤ room)
    (hnext : room < (encode (kept ++ [c])).length) : IsLongestFit room (kept ++ c :: rest) kept where
  isPrefix := List.prefix_append _ _
  fits := hfits
  longest other hother hroom := by
    refine Nat.le_of_not_lt fun hlonger => ?_
    have hnext' : kept ++ [c] <+: kept ++ c :: rest :=
      (List.prefix_append_right_inj kept).mpr (by simp)
    have hbytes := (encode_isPrefix (List.prefix_of_prefix_length_le hnext' hother
      (by rw [List.length_append]; exact hlonger))).length_le
    omega

/-- There is but one longest part that fits. -/
theorem unique {other : List Char} (h : IsLongestFit room text kept)
    (hother : IsLongestFit room text other) : kept = other :=
  (List.prefix_of_prefix_length_le h.isPrefix hother.isPrefix
    (hother.longest kept h.isPrefix h.fits)).eq_of_length_le
      (h.longest other hother.isPrefix hother.fits)

/-- No character is cut where the part that is kept has just so many bytes. -/
theorem cutsCharacter_iff (h : IsLongestFit room text kept) :
    CutsCharacter room text ↔ room < (encode text).length ∧ (encode kept).length < room := by
  constructor
  · rintro ⟨hroom, hcut⟩
    exact ⟨hroom, Nat.lt_of_le_of_ne h.fits (hcut kept h.isPrefix)⟩
  · rintro ⟨hroom, hkept⟩
    refine ⟨hroom, fun whole hwhole hlength => ?_⟩
    have hless := h.longest whole hwhole (Nat.le_of_eq hlength)
    have hbytes := (encode_isPrefix
      (List.prefix_of_prefix_length_le hwhole h.isPrefix hless)).length_le
    omega

/-- Behind what is kept of a text that does not fit stands a character that does not. -/
theorem exists_next (h : IsLongestFit room text kept) (hroom : room < (encode text).length) :
    ∃ c rest, text = kept ++ c :: rest ∧
      room - (encode kept).length < (String.utf8EncodeChar c).length := by
  obtain ⟨rest, rfl⟩ := h.isPrefix
  cases rest with
  | nil =>
    rw [List.append_nil] at hroom
    exact absurd h.fits (Nat.not_le.mpr hroom)
  | cons c rest =>
    refine ⟨c, rest, rfl, Nat.lt_of_not_le fun hchar => ?_⟩
    have hlonger : (kept ++ [c]).length ≤ kept.length := by
      refine h.longest (kept ++ [c]) (List.prefix_append_right_inj kept |>.mpr (by simp)) ?_
      have hone : encode [c] = String.utf8EncodeChar c := List.append_nil _
      have hfits := h.fits
      rw [encode_append, List.length_append, hone]
      omega
    rw [List.length_append, List.length_singleton] at hlonger
    omega

/-- Bytes that break off within a text are read as the part of it that fits, and one U+FFFD
if they break off within a character. -/
theorem decode_take (h : IsLongestFit room text kept) (hroom : room < (encode text).length) :
    decode ((encode text).take room) =
      kept ++ if (encode kept).length < room then [replacement] else [] := by
  obtain ⟨c, rest, rfl, hchar⟩ := h.exists_next hroom
  have htake : (encode (kept ++ c :: rest)).take room =
      encode kept ++ (String.utf8EncodeChar c).take (room - (encode kept).length) := by
    rw [encode_append, List.take_append, List.take_of_length_le h.fits, encode_cons,
      List.take_append_of_le_length (Nat.le_of_lt hchar)]
  rw [htake, decode_encode_append]
  congr 1
  split
  · exact decodeFrom_take_utf8EncodeChar (by omega) hchar
  · rw [Nat.sub_eq_zero_of_le (by omega), List.take_zero]
    rfl

end IsLongestFit

end LinkDigest.Text.Utf8
