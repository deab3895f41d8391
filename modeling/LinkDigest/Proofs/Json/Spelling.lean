import LinkDigest.Json.Basic
import Mathlib.Tactic.SplitIfs

/-!
# Spellings of a text

A text is written between quotes in many ways: a character stands for itself, behind a
backslash as a letter, or by its code, the code in two units if one is too small for it. All
spellings of a text are read as the text, and what is written for a text is one of them.
-/

namespace LinkDigest.Json

/-! ## Written forms -/

/-- The letters that stand for a character behind a backslash. -/
def letters : List (Char × Char) :=
  [('"', '"'), ('\\', '\\'), ('/', '/'), ('b', '\x08'), ('f', '\x0c'), ('n', '\n'), ('r', '\r'),
    ('t', '\t')]

/-- Characters that stand for themselves between quotes. -/
def IsPlain (c : Char) : Prop := c ≠ '"' ∧ c ≠ '\\' ∧ 0x20 ≤ c.toNat

instance : DecidablePred IsPlain := fun c =>
  inferInstanceAs (Decidable (c ≠ '"' ∧ c ≠ '\\' ∧ 0x20 ≤ c.toNat))

/-- What may stand between quotes, whether or not it writes a text: a numeric escape can be
half a pair. -/
inductive IsRaw : List Char → Prop where
  | nil : IsRaw []
  | plain {c : Char} {raw : List Char} (hc : IsPlain c) (hrest : IsRaw raw) : IsRaw (c :: raw)
  | letter {letter c : Char} {raw : List Char} (hletter : (letter, c) ∈ letters)
      (hrest : IsRaw raw) : IsRaw ('\\' :: letter :: raw)
  | unit {w x y z : Char} {code : Nat} {raw : List Char} (hunit : unit? w x y z = some code)
      (hrest : IsRaw raw) : IsRaw ('\\' :: 'u' :: w :: x :: y :: z :: raw)

/-- A spelling between quotes, and the text it writes. -/
inductive Spells : List Char → List Char → Prop where
  | nil : Spells [] []
  | plain {c : Char} {raw text : List Char} (hc : IsPlain c) (hrest : Spells raw text) :
      Spells (c :: raw) (c :: text)
  | letter {letter c : Char} {raw text : List Char} (hletter : (letter, c) ∈ letters)
      (hrest : Spells raw text) : Spells ('\\' :: letter :: raw) (c :: text)
  | unit {w x y z c : Char} {raw text : List Char} (hunit : unit? w x y z = some c.toNat)
      (hrest : Spells raw text) : Spells ('\\' :: 'u' :: w :: x :: y :: z :: raw) (c :: text)
  | pair {w x y z w' x' y' z' c : Char} {high low : Nat} {raw text : List Char}
      (hunit : unit? w x y z = some high) (hhigh : 0xD800 ≤ high ∧ high ≤ 0xDBFF)
      (hunit' : unit? w' x' y' z' = some low) (hlow : 0xDC00 ≤ low ∧ low ≤ 0xDFFF)
      (hcode : c.toNat = 0x10000 + (high - 0xD800) * 0x400 + (low - 0xDC00))
      (hrest : Spells raw text) :
      Spells ('\\' :: 'u' :: w :: x :: y :: z :: '\\' :: 'u' :: w' :: x' :: y' :: z' :: raw)
        (c :: text)

theorem Spells.isRaw {raw text : List Char} (h : Spells raw text) : IsRaw raw := by
  induction h with
  | nil => exact .nil
  | plain hc hrest ih => exact .plain hc ih
  | letter hletter hrest ih => exact .letter hletter ih
  | unit hunit hrest ih => exact .unit hunit ih
  | pair hunit hhigh hunit' hlow hcode hrest ih => exact .unit hunit (.unit hunit' ih)

/-! ## Reading -/

/-- The signs of a unit are digits. -/
theorem isSome_of_unit? {w x y z : Char} {code : Nat} (h : unit? w x y z = some code) :
    ∀ c ∈ [w, x, y, z], (Hex.value? c).isSome := by
  simp only [unit?, Hex.number?, List.foldl_cons, List.foldl_nil, Option.bind_eq_bind,
    Option.bind_some, Option.pure_def, Option.bind_eq_some_iff] at h
  obtain ⟨_, ⟨_, ⟨_, ⟨_, hw, _⟩, _, hx, _⟩, _, hy, _⟩, _, hz, _⟩ := h
  simp [hw, hx, hy, hz]

theorem unescapeLetter?_of_mem {letter c : Char} (h : (letter, c) ∈ letters) :
    unescapeLetter? letter = some c ∧ letter ≠ 'u' :=
  have htable : ∀ entry ∈ letters, unescapeLetter? entry.1 = some entry.2 ∧ entry.1 ≠ 'u' := by
    decide
  htable _ h

theorem unescape?_plain {c : Char} (h : c ≠ '\\') (rest : List Char) :
    unescape? (c :: rest) = (unescape? rest).map (c :: ·) := by
  rw [unescape?]
  · cases unescape? rest <;> rfl
  all_goals simp [h]

theorem unescape?_letter {letter c : Char} (h : unescapeLetter? letter = some c)
    (hu : letter ≠ 'u') (rest : List Char) :
    unescape? ('\\' :: letter :: rest) = (unescape? rest).map (c :: ·) := by
  rw [unescape?]
  · rw [h]
    cases unescape? rest <;> rfl
  all_goals simp [hu]

/-- A unit that is no half of a pair is read by itself, even if another one follows. -/
theorem unescape?_unit {w x y z : Char} {code : Nat} (hunit : unit? w x y z = some code)
    (hcode : code < 0xD800 ∨ 0xDFFF < code) (rest : List Char) :
    unescape? ('\\' :: 'u' :: w :: x :: y :: z :: rest) =
      (unescape? rest).map (Char.ofNat code :: ·) := by
  -- the reader looks for a second unit first, and then takes the first one by itself
  by_cases hnext : ∃ w' x' y' z' more, rest = '\\' :: 'u' :: w' :: x' :: y' :: z' :: more
  · obtain ⟨w', x', y', z', more, rfl⟩ := hnext
    have hhigh : ¬ (0xD800 ≤ code ∧ code ≤ 0xDBFF) := by omega
    have hlow : ¬ (0xDC00 ≤ code ∧ code ≤ 0xDFFF) := by omega
    rw [unescape?, hunit]
    simp only [Option.bind_eq_bind, Option.bind_some, if_neg hhigh, if_neg hlow]
    cases unescape? ('\\' :: 'u' :: w' :: x' :: y' :: z' :: more) <;> rfl
  · have hhalf : ¬ (0xD800 ≤ code ∧ code ≤ 0xDFFF) := by omega
    rw [unescape?, hunit]
    · simp only [Option.bind_eq_bind, Option.bind_some, if_neg hhalf]
      cases unescape? rest <;> rfl
    · exact fun w' x' y' z' more hrest => hnext ⟨w', x', y', z', more, hrest⟩

theorem unescape?_pair {w x y z w' x' y' z' : Char} {high low : Nat}
    (hunit : unit? w x y z = some high) (hhigh : 0xD800 ≤ high ∧ high ≤ 0xDBFF)
    (hunit' : unit? w' x' y' z' = some low) (hlow : 0xDC00 ≤ low ∧ low ≤ 0xDFFF)
    (rest : List Char) :
    unescape? ('\\' :: 'u' :: w :: x :: y :: z :: '\\' :: 'u' :: w' :: x' :: y' :: z' :: rest) =
      (unescape? rest).map
        (Char.ofNat (0x10000 + (high - 0xD800) * 0x400 + (low - 0xDC00)) :: ·) := by
  rw [unescape?, hunit]
  simp only [Option.bind_eq_bind, Option.bind_some, if_pos hhigh, hunit', if_pos hlow]
  cases unescape? rest <;> rfl

/-- No character has the code of half a pair. -/
theorem toNat_isScalar (c : Char) : c.toNat < 0xD800 ∨ 0xDFFF < c.toNat := by
  rcases c.valid with h | h
  · exact .inl h
  · exact .inr h.1

/-- A spelling is read as the text it writes. -/
theorem unescape?_of_spells {raw text : List Char} (h : Spells raw text) :
    unescape? raw = some text := by
  induction h with
  | nil => rfl
  | plain hc hrest ih => rw [unescape?_plain hc.2.1, ih, Option.map_some]
  | letter hletter hrest ih =>
    obtain ⟨hread, hu⟩ := unescapeLetter?_of_mem hletter
    rw [unescape?_letter hread hu, ih, Option.map_some]
  | @unit _ _ _ _ c _ _ hunit hrest ih =>
    rw [unescape?_unit hunit (toNat_isScalar c), ih, Option.map_some, Char.ofNat_toNat]
  | pair hunit hhigh hunit' hlow hcode hrest ih =>
    rw [unescape?_pair hunit hhigh hunit' hlow, ih, Option.map_some, ← hcode, Char.ofNat_toNat]

/-! ## Writing -/

/-- The code of a control character as it is written. -/
theorem unit?_control : ∀ code < 0x20,
    unit? '0' '0' (Hex.digit (code / 16)) (Hex.digit (code % 16)) = some code := by decide

theorem spells_escapeChar_append {raw text : List Char} (c : Char) (h : Spells raw text) :
    Spells (escapeChar c ++ raw) (c :: text) := by
  unfold escapeChar
  split_ifs with hquote hslash hb hf hn hr ht hcontrol
  -- the characters with a letter of their own
  iterate 7
    · subst c
      exact .letter (by decide) h
  · exact .unit (unit?_control c.toNat hcontrol) h
  · exact .plain ⟨hquote, hslash, Nat.le_of_not_lt hcontrol⟩ h

/-- What is written for a text spells it. -/
theorem spells_escape (text : List Char) : Spells (escape text) text := by
  induction text with
  | nil => exact .nil
  | cons c text ih => exact spells_escapeChar_append c ih

end LinkDigest.Json
