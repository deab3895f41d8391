import LinkDigest.Proofs.Url.Canonical
import LinkDigest.Proofs.Url.Front

/-!
# Absolute links

A link that begins with a scheme of the web and two slashes means the same wherever it
stands, unless there are only slashes behind the scheme. All of them are dropped from such a
link before it is read, and the scheme that is left of it means the page it stands on.
-/

namespace LinkDigest.Url

open LinkDigest.Text

/-! ## Schemes in any case -/

/-- A scheme of the web, in any case. -/
def IsWebScheme (scheme : List Char) : Prop :=
  asciiLowercase scheme = "http".toList ∨ asciiLowercase scheme = "https".toList

theorem IsWebScheme.isPlain {scheme : List Char} (h : IsWebScheme scheme) {c : Char}
    (hc : c ∈ scheme) : Percent.IsPlain c := by
  have hall : ∀ d ∈ asciiLowercase scheme, d.isLower := by
    rcases h with h | h <;> rw [h] <;> simp [Char.isLower]
  have hsmall : c.toLower.isLower := hall _ (List.mem_map_of_mem hc)
  rw [Char.isLower_toLower_eq_isAlpha] at hsmall
  exact .inl (by simp [Char.isAlphanum, hsmall])

/-- A link of the web is written in lower case part by part. -/
theorem IsWebScheme.lowercase_eq {scheme : List Char} (h : IsWebScheme scheme) (rest : List Char) :
    lowercase (scheme ++ ':' :: '/' :: '/' :: rest) =
      asciiLowercase scheme ++ ':' :: '/' :: '/' :: lowercase rest := by
  have hsplit : scheme ++ ':' :: '/' :: '/' :: rest =
      (scheme ++ [':', '/']) ++ '/' :: rest := by simp
  have hascii : ∀ c ∈ scheme ++ [':', '/'], c.toNat < 0x80 := by
    intro c hc
    rcases List.mem_append.mp hc with hc | hc
    · exact (h.isPlain hc).lt
    · exact (by simp : ∀ c ∈ [':', '/'], c.toNat < 0x80) c hc
  rw [hsplit, isParting_slash.lowercase_append, lowercase_ascii _ hascii]
  simp [asciiLowercase]

/-! ## Slashes only -/

theorem dropSlashes_eq_nil {text : List Char} (h : ∀ c ∈ text, c = '/') :
    dropSlashes text = [] := by
  rw [dropSlashes_eq_rdropWhile, List.rdropWhile_eq_nil_iff]
  simpa using h

/-- A text that is not of slashes only keeps all that stands before it. -/
theorem dropSlashes_append_of_mem {text : List Char} {c : Char} (hc : c ∈ text) (hne : c ≠ '/')
    (front : List Char) : dropSlashes (front ++ text) = front ++ dropSlashes text := by
  have hkept : (text.reverse.dropWhile (· == '/')).isEmpty = false := by
    rw [List.isEmpty_eq_false_iff, ne_eq, List.dropWhile_eq_nil_iff]
    intro hall
    exact hne (beq_iff_eq.mp (hall c (List.mem_reverse.mpr hc)))
  unfold dropSlashes dropTrailing
  rw [List.reverse_append, List.dropWhile_append, hkept]
  simp

/-- A bare scheme means the base, less its fragment, if that is the scheme of the base. -/
theorem parse?_scheme {scheme : List Char}
    (hscheme : scheme = "http".toList ∨ scheme = "https".toList) {base : Option Url}
    (hbase : ∀ b, base = some b → b.scheme = scheme → ∃ segments, b.path = .segments segments) :
    parse? base (scheme ++ [':']) =
      base.bind fun b => if b.scheme = scheme then some { b with fragment := none } else none := by
  have htext : Reference.ofText (scheme ++ [':']) = ⟨some scheme, [], none, none⟩ := by
    rcases hscheme with rfl | rfl <;> rfl
  have hnone : ∀ r, withAuthority? scheme .special r [] = none := fun r => rfl
  unfold parse? resolve?
  rw [htext]
  simp only [ofScheme_web hscheme, List.takeWhile_nil, List.dropWhile_nil, hnone]
  cases base with
  | none => rfl
  | some b =>
    simp only [List.length_nil, Nat.zero_lt_two, true_and, Option.bind_some]
    split
    · rename_i hsame
      obtain ⟨segments, hpath⟩ := hbase b rfl hsame
      unfold relative?
      rw [hpath]
      rfl
    · rfl

/-! ## Absolute links -/

section

variable {link scheme rest : List Char} (hlink : trim link = scheme ++ ':' :: '/' :: '/' :: rest)
  (hscheme : IsWebScheme scheme)

include hlink hscheme

/-- The slashes before anything else stay. -/
theorem exists_cleanLink_web {c : Char} (hc : c ∈ rest) (hne : c ≠ '/') :
    ∃ text, cleanLink link = asciiLowercase scheme ++ ':' :: '/' :: '/' :: text := by
  obtain ⟨d, hd, hstands⟩ := exists_mem_lowercase hc
  have hkept : d ≠ '/' := by
    rintro rfl
    exact hne (hstands.eq (by decide) rfl).symm
  have hsplit : asciiLowercase scheme ++ ':' :: '/' :: '/' :: lowercase rest =
      (asciiLowercase scheme ++ [':', '/', '/']) ++ lowercase rest := by simp
  refine ⟨dropSlashes (lowercase rest), ?_⟩
  unfold cleanLink
  rw [hlink, hscheme.lowercase_eq, hsplit, dropSlashes_append_of_mem hd hkept]
  simp

/-- Of slashes only none stays. -/
theorem cleanLink_slashes (hslashes : ∀ c ∈ rest, c = '/') :
    cleanLink link = asciiLowercase scheme ++ [':'] := by
  have hself : lowercase rest = rest := by
    rw [lowercase_ascii _ fun c hc => by rw [hslashes c hc]; decide]
    exact asciiLowercase_eq_self fun c hc => by rw [hslashes c hc]; rfl
  have hsplit : asciiLowercase scheme ++ ':' :: '/' :: '/' :: rest =
      (asciiLowercase scheme ++ [':']) ++ '/' :: '/' :: rest := by simp
  unfold cleanLink
  rw [hlink, hscheme.lowercase_eq, hself, hsplit, dropSlashes_append (by simp),
    dropSlashes_eq_nil (by simpa), List.append_nil]

end

/-- An absolute link has the same spelling at every place; only one with nothing but slashes
behind its scheme is spelled as the place itself, if the place has that scheme, and has no
spelling elsewhere. -/
theorem canonicalLink_absolute {link scheme rest : List Char}
    (hlink : trim link = scheme ++ ':' :: '/' :: '/' :: rest) (hscheme : IsWebScheme scheme) :
    ((∃ c ∈ rest, c ≠ '/') →
      ∀ place other, canonicalLink? link place = canonicalLink? link other) ∧
    ((∀ c ∈ rest, c = '/') → ∀ place, canonicalLink? link place =
      (place.bind place?).bind fun base =>
        if base.scheme = asciiLowercase scheme then canonical? { base with fragment := none }
        else none) := by
  constructor
  · rintro ⟨c, hc, hne⟩ place other
    obtain ⟨text, hclean⟩ := exists_cleanLink_web hlink hscheme hc hne
    unfold canonicalLink?
    simp only [hclean, parse?_web hscheme (place.bind place?),
      parse?_web hscheme (other.bind place?)]
  · intro hslashes place
    have hbase : ∀ b, place.bind place? = some b → b.scheme = asciiLowercase scheme →
        ∃ segments, b.path = .segments segments := by
      intro b hb hsame
      obtain ⟨text, -, htext⟩ := Option.bind_eq_some_iff.mp hb
      have hweb : b.isWeb := by
        rw [isWeb_iff, hsame]
        exact hscheme
      obtain ⟨segments, hpath, -⟩ :=
        (isWritten_of_parse? (fun _ hnone => by cases hnone) htext hweb).path
      exact ⟨segments, hpath⟩
    unfold canonicalLink?
    simp only [cleanLink_slashes hlink hscheme hslashes, parse?_scheme hscheme hbase]
    rw [if_neg (by simp), Option.bind_assoc]
    congr 1
    funext base
    split <;> rfl

/-- Behind a scheme, a host is read alike at any place; slashes alone are the place itself. -/
theorem canonicalLink_absolute_hostAndSlashes :
    trim " HTTP://X.test/A/".toList = "HTTP".toList ++ ':' :: '/' :: '/' :: "X.test/A/".toList ∧
      IsWebScheme "HTTP".toList ∧
      canonicalLink? " HTTP://X.test/A/".toList (some "http://y.test/b".toList) =
        canonicalLink? " HTTP://X.test/A/".toList none ∧
      trim "Http:///".toList = "Http".toList ++ ':' :: '/' :: '/' :: "/".toList ∧
      canonicalLink? "Http:///".toList (some "http://y.test/b#c".toList) =
        some "http://y.test/b".toList ∧
      canonicalLink? "Http:///".toList (some "https://y.test/b#c".toList) = none := by
  have hhost : trim " HTTP://X.test/A/".toList =
      "HTTP".toList ++ ':' :: '/' :: '/' :: "X.test/A/".toList := by decide
  have hslashes : trim "Http:///".toList = "Http".toList ++ ':' :: '/' :: '/' :: "/".toList := by
    decide
  have hupper : IsWebScheme "HTTP".toList := .inl (by decide)
  have hmixed : IsWebScheme "Http".toList := .inl (by decide)
  have honly := (canonicalLink_absolute hslashes hmixed).2 (by simp)
  refine ⟨hhost, hupper, (canonicalLink_absolute hhost hupper).1 ⟨'X', by simp⟩ _ _, hslashes,
    ?_, ?_⟩
  · rw [honly]
    decide +kernel
  · rw [honly]
    decide +kernel

/-- Not every absolute link has the same spelling at every place. -/
theorem canonicalLink_not_absolute :
    ¬ ∀ (link scheme rest : List Char) (place other : Option (List Char)),
      trim link = scheme ++ ':' :: '/' :: '/' :: rest → IsWebScheme scheme →
        canonicalLink? link place = canonicalLink? link other := by
  intro h
  have hsame := h "http://".toList "http".toList [] none (some "http://x.test/a".toList)
    (by decide) (.inl (by decide))
  exact absurd hsame (by decide +kernel)

end LinkDigest.Url
