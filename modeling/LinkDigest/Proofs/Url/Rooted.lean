import LinkDigest.Proofs.Url.Shape

/-!
# Links against the root

A link that begins with one slash is spelled as the link that has the origin of its place in
front of the slash. Read against the place the origin stays as it is and is put into lower
case at the end; written out it is put into lower case and read again.
-/

namespace LinkDigest.Url

open LinkDigest.Text

/-- A canonical spelling depends on user name, password and port through what is written for
them in lower case. -/
theorem canonical?_congr {url other : Url} (hscheme : url.scheme = other.scheme)
    (hhost : url.host = other.host)
    (hauthority : asciiLowercase url.renderAuthority = asciiLowercase other.renderAuthority)
    (hpath : url.path = other.path) (hquery : url.query = other.query)
    (hfragment : url.fragment = other.fragment) : canonical? url = canonical? other := by
  have hweb : url.isWeb = other.isWeb := by simp [isWeb, hscheme]
  have htext : url.hostText? = other.hostText? := by simp [hostText?, hhost]
  have hrender : asciiLowercase url.render = asciiLowercase other.render := by
    have hcolon : ∀ text, asciiLowercase (':' :: text) = ':' :: asciiLowercase text := fun _ => rfl
    unfold render
    simp only [asciiLowercase_append, hcolon, hscheme, hauthority, hpath, hquery, hfragment]
  unfold canonical?
  rw [hweb, htext, hrender, hquery, hfragment]

namespace IsWritten

variable {url : Url}

theorem canonical?_atRoot (h : url.IsWritten) (text : List Char) :
    canonical? (url.lowered.atRoot text) = canonical? (url.atRoot text) := by
  refine canonical?_congr rfl rfl ?_ rfl rfl rfl
  have hlowered : (url.lowered.atRoot text).renderAuthority = asciiLowercase url.renderAuthority :=
    h.renderAuthority_lowered
  rw [hlowered]
  exact asciiLowercase_eq_self (isLower_asciiLowercase _)

theorem renderOrigin_lowered (h : url.IsWritten) :
    url.lowered.renderOrigin = asciiLowercase url.renderOrigin := by
  have hscheme : asciiLowercase url.scheme = url.scheme :=
    asciiLowercase_eq_self fun c hc => (h.of_mem_scheme hc).small
  unfold renderOrigin
  rw [h.renderAuthority_lowered, asciiLowercase_append, hscheme]
  rfl

theorem visible_renderOrigin (h : url.IsWritten) : ∀ c ∈ url.renderOrigin, IsVisible c := by
  intro c hc
  rcases List.mem_append.mp hc with hc | hc
  · exact (h.of_mem_scheme hc).visible
  rcases List.mem_cons.mp hc with rfl | hc
  · decide
  · exact (h.of_mem_renderAuthority hc).1

/-- An origin with a slash and a text behind it is read as what the text gives at the root. -/
theorem parse?_renderOrigin_append (h : url.IsWritten) (text : List Char) :
    parse? none (url.renderOrigin ++ '/' :: text) = some (url.atRoot text) := by
  have hbare : IsWritten { url with query := none, fragment := none } := { h with
    query := fun _ hnone => by cases hnone
    fragment := fun _ hnone => by cases hnone }
  have hread := @parse?_renderWith _ hbare [] (by simp) (by simp)
  have horigin : renderWith { url with query := none, fragment := none } [] = url.renderOrigin := by
    rw [renderWith_of_none rfl rfl, List.append_nil]
    rfl
  rw [horigin] at hread
  rw [h.renderOrigin_eq] at hread ⊢
  rw [h.isOrigin.parse?_append, hread]
  rfl

end IsWritten

/-- What comes first at the root can be seen in lower case, too, and is no slash. -/
theorem exists_lowercase_root {c : Char} (hblank : isBlank c = false) (hcontrol : 0x20 ≤ c.toNat)
    (hslash : isSlash .special c = false) (rest : List Char) :
    ∃ d more, lowercase (c :: rest) = d :: more ∧ 0x20 < d.toNat ∧ isSlash .special d = false := by
  obtain ⟨d, more, hlower, hstands⟩ := exists_lowercase_cons c rest
  refine ⟨d, more, hlower, ?_⟩
  have hspace : 0x20 ≠ c.toNat := fun hcode => by
    rw [← Char.ofNat_toNat c, ← hcode] at hblank
    cases hblank
  rcases hstands with rfl | hletter | hextended
  · exact ⟨Nat.lt_of_le_of_ne hcontrol hspace, hslash⟩
  · have hd := IsAuthorityChar.of_isLower hletter
    exact ⟨hd.visible, hd.slash⟩
  · have hd := IsAuthorityChar.of_extended hextended
    exact ⟨hd.visible, hd.slash⟩

/-- However a link is cleaned, a slash with another character behind it stays where it is. -/
theorem exists_cleanLink_eq {c : Char} (hblank : isBlank c = false) (hcontrol : 0x20 ≤ c.toNat)
    (hslash : isSlash .special c = false) (rest : List Char) :
    ∃ d more, 0x20 < d.toNat ∧ isSlash .special d = false ∧
      ∀ front : List Char, (∀ e ∈ front, IsVisible e) →
        cleanLink (front ++ '/' :: c :: rest) = asciiLowercase front ++ '/' :: d :: more := by
  obtain ⟨d, more, hlower, hvisible, hfree⟩ :=
    exists_lowercase_root hblank hcontrol hslash (dropTrailing isBlank rest)
  refine ⟨d, dropSlashes more, hvisible, hfree, fun front hfront => ?_⟩
  have htrim : trim (front ++ '/' :: c :: rest) =
      front ++ '/' :: c :: dropTrailing isBlank rest := by
    have hkept : ∀ e ∈ front ++ ['/', c], isBlank e = false :=
      List.forall_mem_append.mpr ⟨fun e he => (hfront e he).isBlank,
        List.forall_mem_cons.mpr ⟨by decide, by simpa using hblank⟩⟩
    simpa [trim] using strip_append (by simp) hkept rest
  have hdrop : dropSlashes (asciiLowercase front ++ '/' :: d :: more) =
      asciiLowercase front ++ '/' :: d :: dropSlashes more := by
    have hlast : (asciiLowercase front ++ ['/', d]).getLast? ≠ some '/' := by
      rw [List.getLast?_append_of_ne_nil _ (by simp)]
      intro hd
      have hsame : d = '/' := Option.some.inj hd
      rw [hsame] at hfree
      cases hfree
    simpa using dropSlashes_append hlast more
  unfold cleanLink
  rw [htrim, isParting_slash.lowercase_append, hlower,
    lowercase_ascii front fun e he => (hfront e he).lt, hdrop]

/-- A link from the root of a place is spelled as the link with the origin of the place in
front of it. -/
theorem canonicalLink_root {base : List Char} {url : Url} {c : Char}
    (hplace : place? base = some url) (hweb : url.isWeb) (hslash : isSlash .special c = false)
    (hblank : isBlank c = false) (hcontrol : 0x20 ≤ c.toNat) (rest : List Char) :
    canonicalLink? ('/' :: c :: rest) (some base) =
      canonicalLink? (url.renderOrigin ++ '/' :: c :: rest) none := by
  have hurl := isWritten_of_parse? (fun _ hnone => by cases hnone) hplace hweb
  obtain ⟨segments, hpath, -⟩ := hurl.path
  obtain ⟨d, more, hd, hfree, hclean⟩ := exists_cleanLink_eq hblank hcontrol hslash rest
  have hrelative : cleanLink ('/' :: c :: rest) = '/' :: d :: more := hclean [] (by simp)
  have habsolute := hclean url.renderOrigin hurl.visible_renderOrigin
  rw [← hurl.renderOrigin_lowered] at habsolute
  unfold canonicalLink?
  simp only [hrelative, habsolute, Option.bind_some, hplace, Option.bind_none]
  rw [parse?_root (ofScheme_of_isWeb hweb) hpath hd hfree, hurl.lowered.parse?_renderOrigin_append,
    Option.bind_some, Option.bind_some, hurl.canonical?_atRoot]
  simp

/-- The user name of a place has a capital; the link has a character beyond ASCII, leads back
to the root, and ends in a query with a slash. -/
theorem canonicalLink_root_userAndQuery :
    place? "http://User@x.test:81/a?b".toList = some ⟨"http".toList, "User".toList, [],
        some (.name "x.test".toList), some 81, .segments ["a".toList], some "b".toList, none⟩ ∧
      canonicalLink? ('/' :: 'É' :: "/../?Q=É/ ".toList)
          (some "http://User@x.test:81/a?b".toList) =
        canonicalLink? ("http://User@x.test:81".toList ++ '/' :: 'É' :: "/../?Q=É/ ".toList)
          none := by
  have hplace : place? "http://User@x.test:81/a?b".toList = some ⟨"http".toList, "User".toList, [],
      some (.name "x.test".toList), some 81, .segments ["a".toList], some "b".toList, none⟩ := by
    decide +kernel
  refine ⟨hplace, ?_⟩
  rw [canonicalLink_root hplace (by decide) (by decide) (by decide) (by decide)]
  rfl

end LinkDigest.Url
