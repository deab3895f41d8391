import LinkDigest.Proofs.Url.Canonical
import LinkDigest.Proofs.Url.Front

/-!
# The shape of canonical links

Every canonical link is visible ASCII in lower case: a scheme of the web, an authority, and a
path that ends in no slash unless a query or a fragment follows it. It names the host of the
URL it was made of, however much of its end has been dropped.
-/

namespace LinkDigest.Url

open LinkDigest.Text

/-- How canonical links are written. -/
structure IsCanonical (link : List Char) : Prop where
  visible : ∀ c ∈ link, IsVisible c
  small : ∀ c ∈ link, c.isUpper = false
  address : ∃ scheme authority rest, link = scheme ++ "://".toList ++ authority ++ rest ∧
    (scheme = "http".toList ∨ scheme = "https".toList) ∧ authority ≠ [] ∧
      (∀ c ∈ authority, IsFree c) ∧ (rest = [] ∨ rest.head? = some '/')
  last : link.getLast? = some '/' → '?' ∈ link ∨ '#' ∈ link

theorem IsFree.isAuthorityChar {c : Char} (h : IsFree c) : IsAuthorityChar c :=
  ⟨h.visible.1, IsWritten.isSlash_of_isFree h, h.query, h.fragment⟩

theorem isUpper_of_toLower_eq {c : Char} (h : c.toLower = c) : c.isUpper = false := by
  refine Bool.eq_false_iff.mpr fun hcapital => ?_
  have hsmall : c.toLower.isLower := by
    rw [Char.isLower_toLower_eq_isAlpha, Char.isAlpha, hcapital, Bool.true_or]
  rw [h] at hsmall
  exact Char.not_isUpper_of_isLower hsmall hcapital

namespace IsWritten

variable {url : Url}

theorem authority_ne_nil (h : url.IsWritten) : url.renderUserinfo ++ url.renderServer ≠ [] := by
  obtain ⟨host, hhost, hwritten⟩ := h.host
  simp [renderServer, hhost, hwritten.ne_nil]

theorem of_mem_authority (h : url.IsWritten) {c : Char}
    (hc : c ∈ url.renderUserinfo ++ url.renderServer) : IsFree c :=
  (List.mem_append.mp hc).elim h.of_mem_renderUserinfo fun hc => (h.of_mem_renderServer hc).toIsFree

/-- The text before the path of a URL of the web is an origin. -/
theorem isOrigin (h : url.IsWritten) :
    IsOrigin url.scheme (url.renderUserinfo ++ url.renderServer) where
  scheme := isWeb_iff.mp h.isWeb
  ne_nil := h.authority_ne_nil
  chars _ hc := (h.of_mem_authority hc).isAuthorityChar

theorem renderOrigin_eq (h : url.IsWritten) : url.renderOrigin =
    url.scheme ++ ':' :: '/' :: '/' :: (url.renderUserinfo ++ url.renderServer) := by
  rw [renderOrigin, h.renderAuthority_eq]
  rfl

/-- The segments that are left of a path when it ends in slashes. -/
theorem dropSlashes_render_lowered (h : url.IsWritten) {segments : List (List Char)}
    (hpath : url.path = .segments segments) (hquery : url.query = none)
    (hfragment : url.fragment = none) : dropSlashes url.lowered.render = url.lowered.renderOrigin ++
      Path.renderSegments ((segments.map asciiLowercase).rdropWhile List.isEmpty) := by
  have hlowered : url.lowered.path = .segments (segments.map asciiLowercase) := by
    simp [Url.lowered, hpath]
  have hnone : url.lowered.query = none ∧ url.lowered.fragment = none := by
    simp [Url.lowered, hquery, hfragment]
  obtain ⟨written, hwritten, -, hsegments⟩ := h.lowered.path
  rw [hlowered, Path.segments.injEq] at hwritten
  rw [render_eq_renderWith hlowered,
    h.lowered.dropSlashes_renderWith hnone.1 hnone.2 (by rwa [hwritten]),
    renderWith_of_none hnone.1 hnone.2]

/-- The canonical spelling of a URL that ends in a path. -/
theorem canonical?_of_path (h : url.IsWritten) {segments : List (List Char)}
    (hpath : url.path = .segments segments) (hquery : url.query = none)
    (hfragment : url.fragment = none) : canonical? url = some (url.lowered.renderOrigin ++
      Path.renderSegments ((segments.map asciiLowercase).rdropWhile List.isEmpty)) := by
  rw [h.canonical?_eq, if_pos (by simp [hquery, hfragment]),
    h.dropSlashes_render_lowered hpath hquery hfragment]

/-- What can stand behind the origin in the canonical spelling of a URL. -/
structure IsEnding (url : Url) (rest : List Char) : Prop where
  head : rest = [] ∨ rest.head? = some '/'
  last : (url.lowered.renderOrigin ++ rest).getLast? = some '/' → '?' ∈ rest ∨ '#' ∈ rest
  read : ∃ next, parse? none (url.lowered.renderOrigin ++ rest) = some next ∧
    next.host = url.host

theorem isEnding_path (h : url.IsWritten) {segments : List (List Char)}
    (hpath : url.path = .segments segments) (hquery : url.query = none)
    (hfragment : url.fragment = none) : IsEnding url
      (Path.renderSegments ((segments.map asciiLowercase).rdropWhile List.isEmpty)) where
  head := by
    cases (segments.map asciiLowercase).rdropWhile List.isEmpty with
    | nil => exact .inl rfl
    | cons segment more => exact .inr rfl
  last hslash := by
    rw [← h.dropSlashes_render_lowered hpath hquery hfragment] at hslash
    exact absurd (getLast_dropTrailing hslash) (by decide)
  read := by
    have hnone : url.lowered.query = none ∧ url.lowered.fragment = none := by
      simp [Url.lowered, hquery, hfragment]
    obtain ⟨lowered, hlowered, -, hsegments⟩ := h.lowered.path
    have hkept := (List.rdropWhile_prefix List.isEmpty lowered).subset
    have hread := h.lowered.parse?_renderWith (fun _ => head_renderSegments)
      fun _ => of_mem_renderSegments fun s hs => hsegments s (hkept hs)
    have hsame : lowered = segments.map asciiLowercase := by
      simpa [Url.lowered, hpath] using hlowered.symm
    rw [renderWith_of_none hnone.1 hnone.2, hsame] at hread
    exact ⟨_, hread, rfl⟩

theorem isEnding_parts (h : url.IsWritten) {segments : List (List Char)}
    (hpath : url.lowered.path = .segments segments) (hne : segments ≠ [])
    (hparts : ¬ (url.query.isNone ∧ url.fragment.isNone)) :
    IsEnding url (Path.renderSegments segments ++ renderPart '?' url.lowered.query ++
      renderPart '#' url.lowered.fragment) where
  head := by
    obtain ⟨segment, more, rfl⟩ := List.exists_cons_of_ne_nil hne
    exact .inr rfl
  last _ := by
    cases hquery : url.query with
    | some text => simp [Url.lowered, hquery, renderPart]
    | none =>
      cases hfragment : url.fragment with
      | some text => simp [Url.lowered, hfragment, renderPart]
      | none => simp [hquery, hfragment] at hparts
  read := by
    have hread := h.lowered.parse?_render
    rw [render_eq_renderWith hpath] at hread
    exact ⟨url.lowered, by simpa [renderWith, renderOrigin] using hread, rfl⟩

/-- The canonical spelling of a URL is its origin in lower case and what is left of the rest. -/
theorem exists_of_canonical? (h : url.IsWritten) {found : List Char}
    (hfound : canonical? url = some found) :
    ∃ rest, found = url.lowered.renderOrigin ++ rest ∧ IsEnding url rest := by
  by_cases hnone : url.query.isNone ∧ url.fragment.isNone
  · obtain ⟨segments, hpath, -⟩ := h.path
    have hquery := Option.isNone_iff_eq_none.mp hnone.1
    have hfragment := Option.isNone_iff_eq_none.mp hnone.2
    rw [h.canonical?_of_path hpath hquery hfragment, Option.some.injEq] at hfound
    exact ⟨_, hfound.symm, h.isEnding_path hpath hquery hfragment⟩
  · obtain ⟨segments, hpath, hne, -⟩ := h.lowered.path
    rw [h.canonical?_eq, if_neg hnone, Option.some.injEq, render_eq_renderWith hpath] at hfound
    refine ⟨_, ?_, h.isEnding_parts hpath hne hnone⟩
    simp [← hfound, renderWith, renderOrigin]

end IsWritten

/-- A canonical link has the shape of one, and the host it names is that of the URL the link
was read as. -/
theorem canonicalLink_shape {link : List Char} {place : Option (List Char)} {found : List Char}
    (h : canonicalLink? link place = some found) :
    IsCanonical found ∧
      ∃ url host, parse? (place.bind place?) (cleanLink link) = some url ∧
        url.hostText? = some host ∧ host ≠ [] ∧ lowercase host = host ∧
          hostOf? found = some host := by
  have hchars := of_mem_canonicalLink? h
  obtain ⟨url, hparse, hurl, hfound⟩ := exists_parse?_of_canonicalLink? h
  obtain ⟨rest, horigin, hending⟩ := hurl.exists_of_canonical? hfound
  obtain ⟨next, hread, hsame⟩ := hending.read
  rw [← horigin] at hread
  obtain ⟨host, hhost, hwritten⟩ := hurl.host
  constructor
  · exact {
      visible := fun c hc => (hchars c hc).1
      small := fun c hc => isUpper_of_toLower_eq (hchars c hc).2
      address := by
        refine ⟨url.scheme, _, rest, ?_, isWeb_iff.mp hurl.isWeb, hurl.lowered.authority_ne_nil,
          fun c hc => hurl.lowered.of_mem_authority hc, hending.head⟩
        rw [horigin, hurl.lowered.renderOrigin_eq]
        simp [lowered]
      last := fun hslash => by
        rw [horigin] at hslash ⊢
        exact (hending.last hslash).imp (List.mem_append_right _) (List.mem_append_right _) }
  · have htext : ∀ other : Url, other.host = url.host → other.hostText? = some host.render := by
      intro other hother
      have hne : host ≠ .empty := by
        rintro rfl
        exact hwritten.ne_nil rfl
      simp [hostText?, hother, hhost, hne]
    have hlower : lowercase host.render = host.render := by
      rw [lowercase_ascii _ fun c hc => (hwritten.chars c hc).visible.lt]
      exact asciiLowercase_eq_self fun c hc => (hwritten.chars c hc).small
    refine ⟨url, host.render, hparse, htext url rfl, hwritten.ne_nil, hlower, ?_⟩
    unfold hostOf? place?
    rw [trim_eq_self fun c hc => (hchars c hc).1, hread, Option.bind_some, htext next hsame,
      Option.map_some, hlower]

/-- A port and a user name are part of the authority, and of the host is made an address; a
host beyond ASCII becomes its ASCII form. -/
theorem canonicalLink_shape_address :
    (canonicalLink? "//User@0X7f.1:81/../%41/".toList (some "https://x.test".toList) =
        some "https://user@127.0.0.1:81/%41".toList ∧
      IsCanonical "https://user@127.0.0.1:81/%41".toList ∧
      hostOf? "https://user@127.0.0.1:81/%41".toList = some "127.0.0.1".toList) ∧
    canonicalLink? "http://Bücher.test/Ä/".toList none =
        some "http://xn--bcher-kva.test/%c3%a4".toList ∧
      IsCanonical "http://xn--bcher-kva.test/%c3%a4".toList := by
  have hfound : canonicalLink? "//User@0X7f.1:81/../%41/".toList (some "https://x.test".toList) =
      some "https://user@127.0.0.1:81/%41".toList := by decide +kernel
  have hextended : canonicalLink? "http://Bücher.test/Ä/".toList none =
      some "http://xn--bcher-kva.test/%c3%a4".toList := by decide +kernel
  exact ⟨⟨hfound, (canonicalLink_shape hfound).1, by decide +kernel⟩, hextended,
    (canonicalLink_shape hextended).1⟩

end LinkDigest.Url
