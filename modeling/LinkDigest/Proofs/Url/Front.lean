import LinkDigest.Proofs.Text.Lowercase
import LinkDigest.Proofs.Url.Reading

/-!
# Reading behind a known front

A front of visible characters without the marks of query and fragment is read as it stands,
and what follows it is cut by itself. So behind a scheme and `//` the place of a link does not
matter, and behind an origin and a slash the rest of a URL is what the same text gives at the
root of any URL with that origin.
-/

namespace LinkDigest.Url

open LinkDigest.Text

/-! ## Cutting -/

/-- What is read of a text that stands behind a front. -/
def cleanBehind (text : List Char) : List Char :=
  (dropTrailing (fun c => c.toNat ≤ 0x20) text).filter fun c => c != '\t' && c != '\n' && c != '\r'

theorem filter_visible {s : List Char} (h : ∀ c ∈ s, 0x20 < c.toNat) :
    (s.filter fun c => c != '\t' && c != '\n' && c != '\r') = s := by
  have hclean := clean_eq_self h
  unfold clean at hclean
  rwa [strip_eq_self fun c hc => decide_eq_false (Nat.not_le.mpr (h c hc))] at hclean

theorem clean_append {front : List Char} (hne : front ≠ []) (h : ∀ c ∈ front, 0x20 < c.toNat)
    (text : List Char) : clean (front ++ text) = front ++ cleanBehind text := by
  unfold clean cleanBehind
  rw [strip_append hne fun c hc => decide_eq_false (Nat.not_le.mpr (h c hc)), List.filter_append,
    filter_visible h]

theorem cleanBehind_cons {c : Char} (h : 0x20 < c.toNat) (rest : List Char) :
    cleanBehind (c :: rest) = c :: cleanBehind rest := by
  have hclean : cleanBehind ([c] ++ rest) = [c] ++ cleanBehind rest := by
    unfold cleanBehind
    rw [dropTrailing_append (by simpa using h), List.filter_append,
      filter_visible (by simpa using h)]
  exact hclean

theorem cutAt_append {mark : Char} {front : List Char} (h : ∀ c ∈ front, c ≠ mark)
    (text : List Char) : cutAt mark (front ++ text) =
      (front ++ (cutAt mark text).1, (cutAt mark text).2) := by
  have hpos : ∀ c ∈ front, (c != mark) = true := fun c hc => bne_iff_ne.mpr (h c hc)
  unfold cutAt
  rw [List.dropWhile_append_of_pos hpos, List.takeWhile_append_of_pos hpos]
  split <;> rfl

theorem ofRest_append {front : List Char} (h : ∀ c ∈ front, c ≠ '?' ∧ c ≠ '#')
    (scheme : Option (List Char)) (text : List Char) :
    Reference.ofRest scheme (front ++ text) =
      { Reference.ofRest none text with
        scheme := scheme, body := front ++ (Reference.ofRest none text).body } := by
  simp only [Reference.ofRest, cutAt_append fun c hc => (h c hc).2,
    cutAt_append fun c hc => (h c hc).1]

/-- The text before a mark begins as the whole text does. -/
theorem head_cutAt {mark c : Char} {text : List Char} (h : (cutAt mark text).1.head? = some c) :
    text.head? = some c := by
  unfold cutAt at h
  split at h
  · exact h
  · rw [List.head?_takeWhile, Option.filter_eq_some_iff] at h
    exact h.1

theorem head_body {scheme : Option (List Char)} {text : List Char} {c : Char}
    (h : (Reference.ofRest scheme text).body.head? = some c) : text.head? = some c :=
  head_cutAt (head_cutAt h)

/-! ## Behind a scheme -/

/-- The text of a URL of the web behind the slashes that follow its scheme. -/
theorem ofText_web {scheme front : List Char}
    (hscheme : scheme = "http".toList ∨ scheme = "https".toList)
    (hfront : ∀ c ∈ front, 0x20 < c.toNat ∧ c ≠ '?' ∧ c ≠ '#') (text : List Char) :
    Reference.ofText (scheme ++ ':' :: front ++ text) =
      { Reference.ofRest none (cleanBehind text) with
        scheme := some scheme
        body := front ++ (Reference.ofRest none (cleanBehind text)).body } := by
  have hvisible : ∀ c ∈ scheme ++ ':' :: front, 0x20 < c.toNat := by
    have hweb : ∀ c ∈ scheme, 0x20 < c.toNat := by rcases hscheme with rfl | rfl <;> simp
    intro c hc
    rcases List.mem_append.mp hc with hc | hc
    · exact hweb c hc
    rcases List.mem_cons.mp hc with rfl | hc
    · decide
    · exact (hfront c hc).1
  unfold Reference.ofText
  simp only [clean_append (by simp) hvisible]
  rw [List.append_assoc, List.cons_append, splitScheme_web hscheme]
  exact ofRest_append (fun c hc => (hfront c hc).2) _ _

/-- Behind a scheme of the web and two slashes nothing is read against a base. -/
theorem parse?_web {scheme : List Char} (hscheme : scheme = "http".toList ∨ scheme = "https".toList)
    (base : Option Url) (text : List Char) :
    parse? base (scheme ++ ':' :: '/' :: '/' :: text) =
      parse? none (scheme ++ ':' :: '/' :: '/' :: text) := by
  have hsplit : scheme ++ ':' :: '/' :: '/' :: text = scheme ++ ':' :: ['/', '/'] ++ text := by simp
  unfold parse?
  rw [hsplit, ofText_web hscheme (by simp)]
  cases base with
  | none => rfl
  | some b =>
    unfold resolve?
    simp only [ofScheme_web hscheme]
    rw [if_neg]
    rintro ⟨hslashes, -⟩
    simp [isSlash] at hslashes

/-! ## Behind an origin -/

/-- Visible characters of any kind that neither end an authority nor mark what follows it. -/
structure IsAuthorityChar (c : Char) : Prop where
  visible : 0x20 < c.toNat
  slash : isSlash .special c = false
  query : c ≠ '?'
  fragment : c ≠ '#'

instance : DecidablePred IsAuthorityChar := fun c =>
  decidable_of_iff (0x20 < c.toNat ∧ isSlash .special c = false ∧ c ≠ '?' ∧ c ≠ '#')
    ⟨fun ⟨hvisible, hslash, hquery, hfragment⟩ => ⟨hvisible, hslash, hquery, hfragment⟩,
    fun h => ⟨h.visible, h.slash, h.query, h.fragment⟩⟩

theorem IsAuthorityChar.of_extended {c : Char} (h : 0x80 ≤ c.toNat) : IsAuthorityChar c := by
  have hne : ∀ d : Char, d.toNat < 0x80 → c ≠ d := fun d hd heq => by
    rw [heq] at h
    omega
  refine ⟨by omega, ?_, hne '?' (by decide), hne '#' (by decide)⟩
  simp [isSlash, hne '/' (by decide), hne '\\' (by decide)]

theorem IsAuthorityChar.of_isLower {c : Char} (h : c.isLower) : IsAuthorityChar c :=
  Percent.IsPlain.of_ascii (P := fun c => IsAuthorityChar c) (by decide)
    (.inl (isAlphanum_of_isLower h))

/-- An authority in lower case has characters of authorities only. -/
theorem IsAuthorityChar.of_mem_lowercase {s : List Char} (h : ∀ c ∈ s, IsAuthorityChar c) {d : Char}
    (hd : d ∈ lowercase s) : IsAuthorityChar d := by
  obtain ⟨c, hc, rfl | hletter | hextended⟩ := exists_of_mem_lowercase hd
  · exact h _ hc
  · exact .of_isLower hletter
  · exact .of_extended hextended

/-- The URL with another path, and with the query and fragment of a reference. -/
def withRest (url : Url) (r : Reference) (path : List (List Char)) : Url :=
  { url with
    path := .segments path
    query := escapeQuery .special r.query
    fragment := escapeFragment r.fragment }

/-- The URL with the path, query and fragment that a text gives behind the slash of the root. -/
def atRoot (url : Url) (text : List Char) : Url :=
  url.withRest (Reference.ofRest none (cleanBehind text))
    (pathFrom .special [] (Reference.ofRest none (cleanBehind text)).body)

theorem withAuthority?_append {scheme authority path : List Char} {r : Reference}
    (hauthority : ∀ c ∈ authority, isSlash .special c = false)
    (hpath : ∀ c, path.head? = some c → isSlash .special c) (other : Reference) :
    withAuthority? scheme .special other (authority ++ path) =
      (withAuthority? scheme .special r authority).map
        (·.withRest other (pathAfterHost .special path)) := by
  have hpos : ∀ c ∈ authority, (!isSlash .special c) = true := fun c hc => by simp [hauthority c hc]
  have htake : path.takeWhile (fun c => !isSlash .special c) = [] := by
    cases path with
    | nil => rfl
    | cons c rest => simp [hpath c rfl]
  have hdrop : path.dropWhile (fun c => !isSlash .special c) = path :=
    dropWhile_of_head fun c hc => by simp [hpath c hc]
  have hself : authority.takeWhile (fun c => !isSlash .special c) = authority :=
    List.takeWhile_eq_self_iff.mpr hpos
  unfold withAuthority?
  simp only [List.takeWhile_append_of_pos hpos, List.dropWhile_append_of_pos hpos, htake, hdrop,
    List.append_nil, hself]
  split
  · rfl
  · cases Host.special? (splitPort false (splitUserinfo authority).2).1 with
    | none => rfl
    | some host =>
      cases port? scheme (splitPort false (splitUserinfo authority).2).2 with
      | none => rfl
      | some port => rfl

/-- A scheme of the web, two slashes and an authority. -/
structure IsOrigin (scheme authority : List Char) : Prop where
  scheme : scheme = "http".toList ∨ scheme = "https".toList
  ne_nil : authority ≠ []
  chars : ∀ c ∈ authority, IsAuthorityChar c

namespace IsOrigin

variable {scheme authority : List Char}

/-- An authority begins with no slash, so the slashes before it are all there are. -/
theorem dropWhile_slashes (h : IsOrigin scheme authority) (rest : List Char) :
    ('/' :: '/' :: authority ++ rest).dropWhile (isSlash .special) = authority ++ rest := by
  obtain ⟨c, more, rfl⟩ := List.exists_cons_of_ne_nil h.ne_nil
  have hc := (h.chars c List.mem_cons_self).slash
  simp [isSlash] at hc ⊢
  simp [hc]

theorem of_mem_front (h : IsOrigin scheme authority) {c : Char}
    (hc : c ∈ '/' :: '/' :: authority) : 0x20 < c.toNat ∧ c ≠ '?' ∧ c ≠ '#' := by
  rcases List.mem_cons.mp hc with rfl | hc
  · decide
  rcases List.mem_cons.mp hc with rfl | hc
  · decide
  · exact ⟨(h.chars c hc).visible, (h.chars c hc).query, (h.chars c hc).fragment⟩

theorem resolve?_eq (h : IsOrigin scheme authority) (r : Reference) (path : List Char) :
    resolve? none { r with scheme := some scheme, body := '/' :: '/' :: authority ++ path } =
      withAuthority? scheme .special
        { r with scheme := some scheme, body := '/' :: '/' :: authority ++ path }
        (authority ++ path) := by
  unfold resolve?
  simp only [ofScheme_web h.scheme, h.dropWhile_slashes]

theorem parse?_eq (h : IsOrigin scheme authority) :
    parse? none (scheme ++ ':' :: '/' :: '/' :: authority) =
      withAuthority? scheme .special ⟨some scheme, '/' :: '/' :: authority, none, none⟩
        authority := by
  have htext := ofText_web h.scheme (fun c => h.of_mem_front) []
  have hresolve := h.resolve?_eq ⟨none, [], none, none⟩ []
  rw [List.append_nil] at htext
  simp only [List.append_nil] at hresolve
  unfold parse?
  rw [htext, ← hresolve]
  simp [Reference.ofRest, cleanBehind, cutAt, dropTrailing]

/-- What an origin is read as has one empty segment for its path. -/
theorem of_parse? (h : IsOrigin scheme authority) {url : Url}
    (hurl : parse? none (scheme ++ ':' :: '/' :: '/' :: authority) = some url) :
    url.IsWritten ∧ url.path = .segments [[]] ∧ url.query = none ∧ url.fragment = none := by
  rw [h.parse?_eq] at hurl
  set r : Reference := ⟨some scheme, '/' :: '/' :: authority, none, none⟩
  have hself : withAuthority? scheme .special r (authority ++ []) =
      (withAuthority? scheme .special r authority).map
        (·.withRest r (pathAfterHost .special [])) :=
    withAuthority?_append (fun c hc => (h.chars c hc).slash) (by simp) r
  rw [List.append_nil, hurl, Option.map_some, Option.some.injEq] at hself
  have hscheme : url.scheme = scheme := by
    obtain ⟨_, _, _, _, _, _, -, -, rfl⟩ := exists_of_withAuthority? hurl
    rfl
  refine ⟨isWritten_of_withAuthority? hurl ?_, ?_⟩
  · rw [isWeb_iff, hscheme]
    exact h.scheme
  · rw [hself]
    exact ⟨rfl, rfl, rfl⟩

/-- Behind an origin and a slash stands what the text gives at the root. -/
theorem parse?_append (h : IsOrigin scheme authority) (text : List Char) :
    parse? none (scheme ++ ':' :: '/' :: '/' :: authority ++ '/' :: text) =
      (parse? none (scheme ++ ':' :: '/' :: '/' :: authority)).map (·.atRoot text) := by
  have hfront : ∀ c ∈ '/' :: '/' :: authority ++ ['/'], 0x20 < c.toNat ∧ c ≠ '?' ∧ c ≠ '#' := by
    intro c hc
    rcases List.mem_append.mp hc with hc | hc
    · exact h.of_mem_front hc
    · rw [List.mem_singleton.mp hc]
      decide
  have hsplit : scheme ++ ':' :: '/' :: '/' :: authority ++ '/' :: text =
      scheme ++ ':' :: ('/' :: '/' :: authority ++ ['/']) ++ text := by simp
  rw [h.parse?_eq]
  unfold parse?
  rw [hsplit, ofText_web h.scheme hfront]
  simp only [List.append_assoc, List.singleton_append]
  rw [h.resolve?_eq, withAuthority?_append (fun c hc => (h.chars c hc).slash) (by simp [isSlash])]
  rfl

end IsOrigin

/-! ## Against the root of a base -/

/-- Behind one slash stands what the text gives at the root of the base. -/
theorem parse?_root {base : Url} {segments : List (List Char)} {c : Char} {rest : List Char}
    (hkind : SchemeKind.ofScheme base.scheme = .special) (hpath : base.path = .segments segments)
    (hc : 0x20 < c.toNat) (hslash : isSlash .special c = false) :
    parse? (some base) ('/' :: c :: rest) = some (base.atRoot (c :: rest)) := by
  have htext : Reference.ofText (['/'] ++ c :: rest) =
      { Reference.ofRest none (cleanBehind (c :: rest)) with
        body := '/' :: (Reference.ofRest none (cleanBehind (c :: rest))).body } := by
    unfold Reference.ofText
    simp only [clean_append (List.cons_ne_nil '/' []) (by simp)]
    exact ofRest_append (by simp) none _
  have hhead : ∀ d, (Reference.ofRest none (cleanBehind (c :: rest))).body.head? = some d →
      isSlash .special d = false := by
    intro d hd
    have hfirst := head_body hd
    rw [cleanBehind_cons hc, List.head?_cons, Option.some.injEq] at hfirst
    rwa [← hfirst]
  have hnone : (Reference.ofRest none (cleanBehind (c :: rest))).scheme = none := rfl
  unfold atRoot parse?
  rw [← List.singleton_append, htext]
  generalize Reference.ofRest none (cleanBehind (c :: rest)) = r at hhead hnone
  -- Exactly one slash is at the front.
  have hslashes : ('/' :: r.body).takeWhile (isSlash .special) = ['/'] := by
    cases hbody : r.body with
    | nil => rfl
    | cons d more =>
      have hd := hhead d (by rw [hbody]; rfl)
      rw [List.takeWhile_cons, if_pos (by decide), List.takeWhile_cons, hd]
      rfl
  have hdouble : ['/', '/'].isPrefixOf ('/' :: r.body) = false := by
    cases hbody : r.body with
    | nil => rfl
    | cons d more =>
      have hd := hhead d (by rw [hbody]; rfl)
      have hne : d ≠ '/' := by
        rintro rfl
        cases hd
      simp [List.isPrefixOf, hne.symm]
  unfold resolve?
  simp only [hnone, hkind]
  unfold relative?
  simp only [hpath, hslashes, hdouble]
  rfl

end LinkDigest.Url
