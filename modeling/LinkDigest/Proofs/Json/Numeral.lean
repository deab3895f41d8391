import LinkDigest.Json.Record
import LinkDigest.Json.Token
import LinkDigest.Proofs.Text.Figures
import Mathlib.Data.List.TakeWhile
import Mathlib.Tactic.SplitIfs

/-!
# Number literals

What counts as a number: a sign or none, figures of which no zero leads others, figures behind
a point, and an exponent. A literal of that form is read as its parts, and what is written for
an integer is read as the integer.
-/

namespace LinkDigest.Json

namespace Number

/-! ## The form of a literal -/

/-- One figure or more. -/
def IsFigures (digits : List Char) : Prop := digits ≠ [] ∧ ∀ c ∈ digits, c.isDigit

/-- The figures of a whole number. -/
def IsWhole (digits : List Char) : Prop :=
  IsFigures digits ∧ ∀ rest, digits = '0' :: rest → rest = []

/-- The figures behind a point, and the point. -/
inductive IsFraction : Option (List Char) → List Char → Prop where
  | absent : IsFraction none []
  | point {digits : List Char} (hdigits : IsFigures digits) :
      IsFraction (some digits) ('.' :: digits)

/-- An exponent with its mark; it may have a sign. -/
inductive IsExponent : Option (Bool × List Char) → List Char → Prop where
  | absent : IsExponent none []
  | mark {e : Char} {negative : Bool} {sign digits : List Char} (he : e = 'e' ∨ e = 'E')
      (hsign : (negative, sign) ∈ [(false, []), (false, ['+']), (true, ['-'])])
      (hdigits : IsFigures digits) : IsExponent (some (negative, digits)) (e :: (sign ++ digits))

/-- The sign of a literal; only a negative number has one. -/
def sign (negative : Bool) : List Char := if negative then ['-'] else []

/-- A literal of the parts. -/
inductive Parts.IsLiteral : Parts → List Char → Prop where
  | mk {negative : Bool} {whole fraction exponent : List Char} {f : Option (List Char)}
      {e : Option (Bool × List Char)} (hwhole : IsWhole whole) (hfraction : IsFraction f fraction)
      (hexponent : IsExponent e exponent) :
      IsLiteral ⟨negative, whole, f, e⟩ (sign negative ++ (whole ++ (fraction ++ exponent)))

/-- The form of a number. -/
def IsNumeral (literal : List Char) : Prop := ∃ parts : Parts, parts.IsLiteral literal

/-! ## Characters -/

theorem IsFigures.isNumberChar {digits : List Char} (h : IsFigures digits) :
    ∀ c ∈ digits, Token.isNumberChar c := by
  intro c hc
  simp [Token.isNumberChar, h.2 c hc]

/-- A number is written in characters of numbers, and begins with its sign or a figure. -/
theorem IsNumeral.cons {literal : List Char} (h : IsNumeral literal) :
    ∃ c rest, literal = c :: rest ∧ (c = '-' ∨ c.isDigit) ∧
      ∀ d ∈ rest, Token.isNumberChar d := by
  obtain ⟨_, @⟨negative, whole, fraction, exponent, f, e, hwhole, hfraction, hexponent⟩⟩ := h
  have hall : ∀ d ∈ whole ++ (fraction ++ exponent), Token.isNumberChar d := by
    simp only [List.forall_mem_append]
    refine ⟨hwhole.1.isNumberChar, ?_, ?_⟩
    · cases hfraction with
      | absent => simp
      | point hdigits => exact List.forall_mem_cons.mpr ⟨by decide, hdigits.isNumberChar⟩
    · cases hexponent with
      | absent => simp
      | mark he hsign hdigits =>
        refine List.forall_mem_cons.mpr ⟨by rcases he with rfl | rfl <;> decide, ?_⟩
        refine List.forall_mem_append.mpr ⟨?_, hdigits.isNumberChar⟩
        simp only [List.mem_cons, Prod.mk.injEq, List.not_mem_nil, or_false] at hsign
        rcases hsign with ⟨-, rfl⟩ | ⟨-, rfl⟩ | ⟨-, rfl⟩ <;> simp [Token.isNumberChar]
  cases negative with
  | true => exact ⟨'-', _, rfl, .inl rfl, hall⟩
  | false =>
    obtain ⟨⟨hne, hdigits⟩, -⟩ := hwhole
    cases whole with
    | nil => exact absurd rfl hne
    | cons c digits =>
      exact ⟨c, _, rfl, .inr (hdigits c List.mem_cons_self), fun d hd =>
        hall d (List.mem_cons_of_mem _ hd)⟩

/-! ## Reading the parts -/

/-- What does not go on with a figure. -/
def EndsFigures (rest : List Char) : Prop := ∀ c ∈ rest.head?, c.isDigit = false

theorem takeWhile_figures {digits rest : List Char} (hdigits : ∀ c ∈ digits, c.isDigit)
    (hrest : EndsFigures rest) : (digits ++ rest).takeWhile Char.isDigit = digits := by
  rw [List.takeWhile_append_of_pos hdigits]
  cases rest with
  | nil => simp
  | cons c rest => simp [hrest c rfl]

theorem dropWhile_figures {digits rest : List Char} (hdigits : ∀ c ∈ digits, c.isDigit)
    (hrest : EndsFigures rest) : (digits ++ rest).dropWhile Char.isDigit = rest := by
  rw [List.dropWhile_append_of_pos hdigits]
  cases rest with
  | nil => rfl
  | cons c rest => simp [hrest c rfl]

theorem IsExponent.endsFigures {e : Option (Bool × List Char)} {exponent : List Char}
    (h : IsExponent e exponent) : EndsFigures exponent := by
  cases h with
  | absent => simp [EndsFigures]
  | mark he hsign hdigits => rcases he with rfl | rfl <;> simp [EndsFigures]

theorem IsFraction.endsFigures {f : Option (List Char)} {fraction exponent : List Char}
    (h : IsFraction f fraction) (hexponent : EndsFigures exponent) :
    EndsFigures (fraction ++ exponent) := by
  cases h with
  | absent => exact hexponent
  | point hdigits => simp [EndsFigures]

/-- Figures are no sign. -/
theorem ne_sign_of_isDigit {c : Char} (h : c.isDigit) : c ≠ '-' ∧ c ≠ '+' := by
  constructor <;> (rintro rfl; exact absurd h (by decide))

theorem exponent?_of_isExponent {e : Option (Bool × List Char)} {exponent : List Char}
    (h : IsExponent e exponent) : exponent? exponent = some e := by
  cases h with
  | absent => rfl
  | @mark mark negative sign digits he hsign hdigits =>
    obtain ⟨hne, hall⟩ := hdigits
    have hread : (digits.isEmpty ∨ ¬ digits.all Char.isDigit) = False := by
      simpa [hne] using hall
    simp only [List.mem_cons, Prod.mk.injEq, List.not_mem_nil, or_false] at hsign
    rcases hsign with ⟨rfl, rfl⟩ | ⟨rfl, rfl⟩ | ⟨rfl, rfl⟩
    · cases digits with
      | nil => exact absurd rfl hne
      | cons c digits =>
        obtain ⟨hminus, hplus⟩ := ne_sign_of_isDigit (hall c List.mem_cons_self)
        simp only [List.nil_append, exponent?, if_pos he]
        split
        · simp_all
        · simp_all
        · simp_all
    · simp only [List.cons_append, List.nil_append, exponent?, if_pos he, hread, if_false]
    · simp only [List.cons_append, List.nil_append, exponent?, if_pos he, hread, if_false]

/-- The parts of a literal behind its sign. -/
def unsigned? (negative : Bool) (unsigned : List Char) : Option Parts := do
  let whole := unsigned.takeWhile Char.isDigit
  if whole.isEmpty ∨ (whole.length > 1 ∧ whole.head? = some '0') then none
  match unsigned.dropWhile Char.isDigit with
  | '.' :: rest =>
    let fraction := rest.takeWhile Char.isDigit
    if fraction.isEmpty then none
    else return ⟨negative, whole, some fraction, ← exponent? (rest.dropWhile Char.isDigit)⟩
  | rest => return ⟨negative, whole, none, ← exponent? rest⟩

theorem parts?_sign_append (negative : Bool) {unsigned : List Char}
    (h : unsigned.head? ≠ some '-') :
    parts? (sign negative ++ unsigned) = unsigned? negative unsigned := by
  cases negative with
  | true => rfl
  | false =>
    simp only [sign, Bool.false_eq_true, if_false, List.nil_append, parts?]
    split
    · exact absurd rfl h
    · rfl

theorem parts?_of_isLiteral {parts : Parts} {literal : List Char} (h : parts.IsLiteral literal) :
    parts? literal = some parts := by
  obtain @⟨negative, whole, fraction, exponent, f, e, hwhole, hfraction, hexponent⟩ := h
  have hends := hfraction.endsFigures hexponent.endsFigures
  obtain ⟨⟨hne, hall⟩, hzero⟩ := hwhole
  -- the figures before the point are there, and no zero leads them
  have hread : ¬ (whole.isEmpty ∨ (whole.length > 1 ∧ whole.head? = some '0')) := by
    cases whole with
    | nil => exact absurd rfl hne
    | cons c digits =>
      rintro (hempty | ⟨hlong, hlead⟩)
      · cases hempty
      · obtain rfl : c = '0' := Option.some.inj hlead
        rw [hzero digits rfl] at hlong
        exact absurd hlong (by decide)
  have hsigned : parts? (sign negative ++ (whole ++ (fraction ++ exponent))) =
      unsigned? negative (whole ++ (fraction ++ exponent)) := by
    refine parts?_sign_append negative ?_
    cases whole with
    | nil => exact absurd rfl hne
    | cons c digits =>
      simpa using (ne_sign_of_isDigit (hall c List.mem_cons_self)).1
  rw [hsigned]
  unfold unsigned?
  simp only [takeWhile_figures hall hends, dropWhile_figures hall hends, if_neg hread]
  cases hfraction with
  | absent =>
    have hpoint : ∀ rest, exponent ≠ '.' :: rest := by
      rintro rest rfl
      cases hexponent with
      | mark he => exact absurd he (by decide)
    rw [List.nil_append]
    split
    · exact absurd rfl (hpoint _)
    · rw [exponent?_of_isExponent hexponent]
      rfl
  | @point digits hdigits =>
    have hrest := hexponent.endsFigures
    have hsome : ¬ digits.isEmpty := by simpa using hdigits.1
    simp only [List.cons_append, takeWhile_figures hdigits.2 hrest,
      dropWhile_figures hdigits.2 hrest, if_neg hsome, exponent?_of_isExponent hexponent]
    rfl

/-! ## Integers -/

/-- The parts of an integer as it is written. -/
def integerParts (n : Int) : Parts := ⟨n < 0, (toString n.natAbs).toList, none, none⟩

theorem toString_eq_sign_append (n : Int) :
    (toString n).toList = sign (n < 0) ++ (toString n.natAbs).toList := by
  cases n with
  | ofNat n => rfl
  | negSucc n =>
    have hneg : (Int.negSucc n < 0) = True := eq_true (Int.negSucc_lt_zero n)
    simp only [hneg, sign]
    exact String.toList_append

theorem isLiteral_toString (n : Int) : (integerParts n).IsLiteral (toString n).toList := by
  have hwhole : IsWhole (toString n.natAbs).toList :=
    ⟨⟨Text.toString_ne_nil _, fun c hc => Text.isDigit_of_mem_toString hc⟩,
      fun rest hrest => Text.eq_nil_of_toString hrest⟩
  rw [toString_eq_sign_append, ← List.append_nil (toString n.natAbs).toList]
  exact .mk hwhole .absent .absent

theorem integer?_toString (n : Int) : integer? (toString n).toList = some n := by
  have hvalue : figures (integerParts n).whole = n.natAbs := Text.foldl_toString _
  have hplain : ¬ ((integerParts n).fraction.isSome ∨ (integerParts n).exponent.isSome) := by
    simp [integerParts]
  have hsign : (integerParts n).negative = decide (n < 0) := rfl
  unfold integer?
  rw [parts?_of_isLiteral (isLiteral_toString n)]
  simp only [Option.bind_eq_bind, Option.bind_some, if_neg hplain, hvalue, hsign, decide_eq_true_eq]
  by_cases hneg : n < 0
  · have hzero : n.natAbs ≠ 0 := by omega
    have hsame : -(n.natAbs : Int) = n := by omega
    rw [if_pos hneg, if_neg hzero, hsame]
  · have hsame : (n.natAbs : Int) = n := by omega
    rw [if_neg hneg, hsame]

/-- An integer within bounds is read as it is written. -/
theorem integerIn?_ofInt {low high n : Int} (hlow : low ≤ n) (hhigh : n ≤ high) :
    integerIn? low high (Json.ofInt n) = some n := by
  simp only [integerIn?, Json.ofInt, integer?_toString, Option.bind_eq_bind, Option.bind_some,
    if_pos (And.intro hlow hhigh)]

end Number

theorem ofNat_eq_ofInt (n : Nat) : ofNat n = ofInt n := rfl

theorem int64?_ofInt {n : Int} (hlow : -9223372036854775808 ≤ n)
    (hhigh : n ≤ 9223372036854775807) : int64? (ofInt n) = some n :=
  Number.integerIn?_ofInt hlow hhigh

theorem count64?_ofNat {n : Nat} (h : n ≤ 18446744073709551615) :
    count64? (ofNat n) = some n := by
  have hhigh : (n : Int) ≤ 18446744073709551615 := Int.ofNat_le.mpr h
  rw [count64?, ofNat_eq_ofInt, Number.integerIn?_ofInt (Int.natCast_nonneg n) hhigh,
    Option.map_some, Int.toNat_natCast]

end LinkDigest.Json
