import LinkDigest.Json.Parse
import LinkDigest.Proofs.Json.Numeral
import LinkDigest.Proofs.Json.Spelling
import Mathlib.Data.List.Chain

/-!
# Tokens in a text

A text lays tokens out with blanks between them as it likes. It is read as these tokens
unless two of them run together: of the tokens only words and numbers have no sign that
ends them.
-/

namespace LinkDigest.Json.Token

/-! ## Texts that lay out tokens -/

/-- How a token is written. -/
def text : Token → List Char
  | .openArray => ['[']
  | .closeArray => [']']
  | .openObject => ['\x7b']
  | .closeObject => ['\x7d']
  | .comma => [',']
  | .colon => [':']
  | .null => ['n', 'u', 'l', 'l']
  | .bool true => ['t', 'r', 'u', 'e']
  | .bool false => ['f', 'a', 'l', 's', 'e']
  | .number literal => literal
  | .string raw => '"' :: (raw ++ ['"'])

/-- Tokens with the form of their kind. -/
def IsFormed : Token → Prop
  | .number literal => Number.IsNumeral literal
  | .string raw => IsRaw raw
  | _ => True

/-- The text writes the tokens in turn, with any blanks before, between and behind them. -/
inductive IsLayout : List Token → List Char → Prop where
  | nil {blanks : List Char} (hblanks : ∀ c ∈ blanks, isBlank c) : IsLayout [] blanks
  | cons {token : Token} {tokens : List Token} {blanks text : List Char}
      (hblanks : ∀ c ∈ blanks, isBlank c) (htoken : token.IsFormed)
      (hrest : IsLayout tokens text) : IsLayout (token :: tokens) (blanks ++ (token.text ++ text))

/-- Tokens that end where the next one begins. -/
def isOpenEnded : Token → Bool
  | .null => true
  | .bool _ => true
  | .number _ => true
  | _ => false

/-- No two tokens run together, even without blanks. -/
def Separated (tokens : List Token) : Prop :=
  tokens.IsChain fun token next => token.isOpenEnded → next.isOpenEnded = false

/-- Tokens with as many blanks before each as one likes. -/
theorem isLayout_flatMap {tokens : List Token} {blanks : Token → List Char}
    (hblanks : ∀ token, ∀ c ∈ blanks token, isBlank c) (h : ∀ token ∈ tokens, token.IsFormed) :
    IsLayout tokens (tokens.flatMap fun token => blanks token ++ token.text) := by
  induction tokens with
  | nil => exact .nil (by simp)
  | cons token tokens ih =>
    obtain ⟨htoken, htokens⟩ := List.forall_mem_cons.mp h
    rw [List.flatMap_cons, List.append_assoc]
    exact .cons (hblanks token) htoken (ih htokens)

/-! ## Reading one token -/

/-- What does not go on with a word or a number. -/
def Breaks (rest : List Char) : Prop :=
  ∀ c ∈ rest.head?, c.isAlpha = false ∧ isNumberChar c = false

variable {done : List Token} {read rest : List Char}

theorem readFrom_blanks {blanks : List Char} (h : ∀ c ∈ blanks, isBlank c) :
    readFrom done .between (blanks ++ rest) = readFrom done .between rest := by
  induction blanks with
  | nil => rfl
  | cons c blanks ih =>
    obtain ⟨hc, hblanks⟩ := List.forall_mem_cons.mp h
    rw [List.cons_append, readFrom, step, start, if_pos hc]
    exact ih hblanks

/-- A token that the next character ends is read before what that character begins. -/
theorem readFrom_thenStart {reader : Reader} {token : Token}
    (hstep : ∀ c ∈ rest.head?, step reader c = thenStart (some token) c)
    (hfinish : finish reader = some [token]) :
    readFrom done reader rest = readFrom (token :: done) .between rest := by
  cases rest with
  | nil =>
    rw [readFrom, readFrom, hfinish]
    simp [finish]
  | cons c rest =>
    rw [readFrom, readFrom, hstep c rfl]
    simp only [step, thenStart, Option.bind_eq_bind, Option.bind_some]
    -- the character begins what it begins between tokens, or nothing at all
    cases start c with
    | none => rfl
    | some begun => simp

theorem readFrom_inWord {token : Token} (hword : ofWord? read.reverse = some token)
    (hrest : Breaks rest) :
    readFrom done (.inWord read) rest = readFrom (token :: done) .between rest := by
  refine readFrom_thenStart (fun c hc => ?_) (by simp [finish, hword])
  simp [step, (hrest c hc).1, hword]

theorem readFrom_numberChars {chars : List Char} (h : ∀ c ∈ chars, isNumberChar c) :
    readFrom done (.inNumber read) (chars ++ rest) =
      readFrom done (.inNumber (chars.reverse ++ read)) rest := by
  induction chars generalizing read with
  | nil => rfl
  | cons c chars ih =>
    obtain ⟨hc, hchars⟩ := List.forall_mem_cons.mp h
    rw [List.cons_append, readFrom, step, if_pos hc]
    simp only [List.reverse_nil, List.nil_append, ih hchars, List.reverse_cons, List.append_assoc,
      List.singleton_append]

theorem start_number {c : Char} (h : c = '-' ∨ c.isDigit) :
    start c = some ([], .inNumber [c]) := by
  rcases h with rfl | hdigit
  · rfl
  · have hne : ∀ d : Char, d.isDigit = false → (c = d) = False := fun d hd =>
      eq_false (Text.ne_of_isDigit hdigit hd)
    simp +decide [start, isBlank, hne, hdigit]

/-- A number is read up to what does not go on with it. -/
theorem readFrom_number {literal : List Char} (h : Number.IsNumeral literal)
    (hrest : Breaks rest) : readFrom done .between (literal ++ rest) =
      readFrom (.number literal :: done) .between rest := by
  obtain ⟨c, digits, rfl, hc, hdigits⟩ := h.cons
  have hread : ofNumber? (digits.reverse ++ [c]).reverse = some (.number (c :: digits)) := by
    obtain ⟨parts, hparts⟩ := h
    simp [ofNumber?, Number.parts?_of_isLiteral hparts]
  rw [List.cons_append, readFrom, step, start_number hc]
  refine (readFrom_numberChars hdigits).trans (readFrom_thenStart (fun d hd => ?_) ?_)
  · rw [step, if_neg (by simp [(hrest d hd).2]), hread]
  · rw [finish, hread, Option.map_some]

/-- What stands between quotes is read up to the quote behind it. -/
theorem readFrom_inString {raw : List Char} (h : IsRaw raw) :
    readFrom done (.inString read) (raw ++ '"' :: rest) =
      readFrom (.string (read.reverse ++ raw) :: done) .between rest := by
  induction h generalizing read with
  | nil => simp [readFrom, step]
  | @plain c raw hc hrest ih =>
    obtain ⟨hquote, hslash, hcode⟩ := hc
    simp [readFrom, step, hquote, hslash, Nat.not_lt.mpr hcode, ih]
  | @letter letter c raw hletter hrest ih =>
    obtain ⟨hread, hu⟩ := unescapeLetter?_of_mem hletter
    simp [readFrom, step, hread, hu, ih]
  | @unit w x y z code raw hunit hrest ih =>
    have hdigits := isSome_of_unit? hunit
    simp only [List.forall_mem_cons] at hdigits
    obtain ⟨hw, hx, hy, hz, -⟩ := hdigits
    simp [readFrom, step, hw, hx, hy, hz, ih]

/-! ## Reading tokens in turn -/

theorem readFrom_text {token : Token} (h : token.IsFormed)
    (hrest : token.isOpenEnded → Breaks rest) :
    readFrom done .between (token.text ++ rest) = readFrom (token :: done) .between rest := by
  cases token with
  | openArray => rfl
  | closeArray => rfl
  | openObject => rfl
  | closeObject => rfl
  | comma => rfl
  | colon => rfl
  | null => exact readFrom_inWord rfl (hrest rfl)
  | bool value => cases value <;> exact readFrom_inWord rfl (hrest rfl)
  | number literal => exact readFrom_number h (hrest rfl)
  | string raw =>
    rw [text, List.cons_append, List.append_assoc, List.singleton_append]
    exact readFrom_inString h

theorem ends_of_isBlank {c : Char} (h : isBlank c) :
    c.isAlpha = false ∧ isNumberChar c = false := by
  simp only [isBlank, Bool.or_eq_true, beq_iff_eq] at h
  rcases h with ((rfl | rfl) | rfl) | rfl <;> decide

theorem breaks_blanks_append {blanks : List Char} (h : ∀ c ∈ blanks, isBlank c)
    (hrest : Breaks rest) : Breaks (blanks ++ rest) := by
  cases blanks with
  | nil => exact hrest
  | cons c blanks =>
    rintro d ⟨⟩
    exact ends_of_isBlank (h c List.mem_cons_self)

theorem breaks_text_append {token : Token} (h : token.isOpenEnded = false) :
    Breaks (token.text ++ rest) := by
  cases token with
  | null | bool | number => cases h
  | _ =>
    rintro c ⟨⟩
    decide

/-- Behind a token without a sign that ends it comes a blank, a sign or the end. -/
theorem IsLayout.breaks {token : Token} {tokens : List Token} {text : List Char}
    (h : IsLayout tokens text) (hsep : Separated (token :: tokens)) (hopen : token.isOpenEnded) :
    Breaks text := by
  cases h with
  | nil hblanks =>
    rw [← List.append_nil text]
    exact breaks_blanks_append hblanks (by simp [Breaks])
  | cons hblanks htoken hrest =>
    exact breaks_blanks_append hblanks (breaks_text_append (hsep.rel hopen))

theorem readFrom_of_isLayout {tokens : List Token} {text : List Char} (h : IsLayout tokens text)
    (hsep : Separated tokens) : readFrom done .between text = some (done.reverse ++ tokens) := by
  induction h generalizing done with
  | @nil blanks hblanks =>
    rw [← List.append_nil blanks, readFrom_blanks hblanks]
    rfl
  | cons hblanks htoken hrest ih =>
    rw [readFrom_blanks hblanks, readFrom_text htoken (hrest.breaks hsep), ih hsep.tail]
    simp

/-- A text is read as the tokens it lays out. -/
theorem read?_of_isLayout {tokens : List Token} {text : List Char} (h : IsLayout tokens text)
    (hsep : Separated tokens) : read? text = some tokens := readFrom_of_isLayout h hsep

end LinkDigest.Json.Token
