import LinkDigest.Text.Blank
import LinkDigest.Text.Lowercase

/-!
# Anchors

The links of a text with markup. An anchor begins with `<a` and a blank; within
its tag the first `href` that is followed by an equals sign and a quoted value
gives the link. Either quote begins a value and either ends it. Of all links
only those that lead to a page are kept.
-/

namespace LinkDigest.Anchor

open LinkDigest.Text

/-- Quotes around a value. -/
def isQuote (c : Char) : Bool := c == '"' || c == '\x27'

/-- What follows a word given in lower case, its letters of either case alike. -/
def afterWord? : List Char → List Char → Option (List Char)
  | [], text => some text
  | _ :: _, [] => none
  | w :: word, c :: text => if c.toLower = w then afterWord? word text else none

/-- The quoted value a text begins with, which is not empty, and what follows it. -/
def quoted? : List Char → Option (List Char × List Char)
  | [] => none
  | quote :: rest =>
    if isQuote quote then
      match rest.dropWhile (!isQuote ·) with
      | [] => none
      | _ :: after =>
        let value := rest.takeWhile (!isQuote ·)
        if value.isEmpty then none else some (value, after)
    else none

/-- The value of the attribute a text begins with, and what follows it. -/
def attribute? (text : List Char) : Option (List Char × List Char) :=
  match afterWord? ['h', 'r', 'e', 'f'] text with
  | none => none
  | some rest =>
    match rest.dropWhile isBlank with
    | '=' :: rest => quoted? (rest.dropWhile isBlank)
    | _ => none

/-- The value of the first attribute before the tag ends, and what follows it. -/
def withinTag? : List Char → Option (List Char × List Char)
  | [] => none
  | c :: rest =>
    match attribute? (c :: rest) with
    | some found => some found
    | none => if c = '>' then none else withinTag? rest

/-- The value of the anchor a text begins with, and what follows it. -/
def anchor? : List Char → Option (List Char × List Char)
  | '<' :: name :: blank :: rest =>
    if name.toLower = 'a' ∧ isBlank blank then withinTag? rest else none
  | _ => none

theorem length_afterWord? {word text rest : List Char} (h : afterWord? word text = some rest) :
    rest.length ≤ text.length := by
  fun_induction afterWord? word text with
  | case1 text => cases h; exact Nat.le_refl _
  | case2 => cases h
  | case3 word c text ih =>
    have := ih h
    simp only [List.length_cons]
    omega
  | case4 => cases h

private theorem length_dropWhile_le (p : Char → Bool) (s : List Char) :
    (s.dropWhile p).length ≤ s.length :=
  (List.dropWhile_sublist p).length_le

theorem length_quoted? {text value rest : List Char} (h : quoted? text = some (value, rest)) :
    rest.length < text.length := by
  fun_cases quoted? text with
  | case1 => simp [quoted?] at h
  | case2 quote after hq hd => simp [quoted?, hq, hd] at h
  | case3 quote after hq q tail hd v hv => simp [quoted?, hq, hd, v, hv] at h
  | case4 quote after hq q tail hd v hv =>
    have hlen := length_dropWhile_le (fun c => !isQuote c) after
    simp only [hd, List.length_cons] at hlen
    simp only [quoted?, hq, hd, v, hv, if_true, Bool.false_eq_true, if_false,
      Option.some.injEq, Prod.mk.injEq] at h
    obtain ⟨-, rfl⟩ := h
    simp only [List.length_cons]
    omega
  | case5 quote after hq => simp [quoted?, hq] at h

theorem length_attribute? {text value rest : List Char}
    (h : attribute? text = some (value, rest)) : rest.length < text.length := by
  simp only [attribute?] at h
  split at h
  · cases h
  · next after hw =>
    have hword := length_afterWord? hw
    split at h
    · next tail hd =>
      have hq := length_quoted? h
      have hlen := length_dropWhile_le isBlank after
      have hlen' := length_dropWhile_le isBlank tail
      simp only [hd, List.length_cons] at hlen
      omega
    · cases h

theorem length_withinTag? {text value rest : List Char}
    (h : withinTag? text = some (value, rest)) : rest.length < text.length := by
  fun_induction withinTag? text with
  | case1 => cases h
  | case2 c tail found hf => cases h; exact length_attribute? hf
  | case3 => cases h
  | case4 c tail _ _ ih =>
    have := ih h
    simp only [List.length_cons]
    omega

theorem length_anchor? {text value rest : List Char} (h : anchor? text = some (value, rest)) :
    rest.length < text.length := by
  simp only [anchor?] at h
  split at h
  · split at h
    · have := length_withinTag? h
      simp only [List.length_cons]
      omega
    · cases h
  · cases h

/-- The values of all anchors, as they stand. The search goes on behind each. -/
def values (html : List Char) : List (List Char) :=
  match _found : anchor? html with
  | some (value, rest) => value :: values rest
  | none =>
    match html with
    | [] => []
    | _ :: rest => values rest
termination_by html.length
decreasing_by
  · exact length_anchor? (by assumption)
  · simp

/-- Schemes that lead to no page. -/
def skippedSchemes : List String := ["mailto:", "javascript:", "tel:", "data:"]

/-- Whether a link leads to a page: it is not empty, no place on its own page,
and of no skipped scheme. -/
def leadsToPage (link : List Char) : Bool :=
  !link.isEmpty && link.head? != some '#' &&
  !skippedSchemes.any fun scheme => scheme.toList.isPrefixOf (asciiLowercase link)

/-- The links of the anchors that lead to a page, without blanks around them. -/
def links (html : List Char) : List (List Char) :=
  ((values html).map trim).filter leadsToPage

end LinkDigest.Anchor
