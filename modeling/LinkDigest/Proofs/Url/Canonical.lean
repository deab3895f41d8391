import LinkDigest.Proofs.Text.Lowercase
import LinkDigest.Proofs.Url.Reading
import LinkDigest.Url.Canonical
import Mathlib.Data.List.DropRight

/-!
# Canonical links read again

A canonical link is read as the URL it was made of, in lower case, and without the slashes
at its end. So it is its own canonical spelling, unless it ends in a slash: that happens
where a query or a fragment does, since the slashes are dropped from every link that is read
and kept in every query and fragment that is written.
-/

namespace LinkDigest.Url

open LinkDigest.Text

/-! ## Slashes at the end -/

theorem dropSlashes_eq_rdropWhile (text : List Char) :
    dropSlashes text = text.rdropWhile (· == '/') := rfl

theorem dropSlashes_eq_self {text : List Char} (h : text.getLast? ≠ some '/') :
    dropSlashes text = text := by
  rw [dropSlashes_eq_rdropWhile, List.rdropWhile_eq_self_iff]
  intro hne hslash
  refine h ?_
  rw [List.getLast?_eq_some_getLast hne, beq_iff_eq.mp hslash]

/-- Slashes are dropped no further than to what does not end in one. -/
theorem dropSlashes_append {text : List Char} (h : text.getLast? ≠ some '/') (more : List Char) :
    dropSlashes (text ++ more) = text ++ dropSlashes more := by
  refine dropTrailing_append (fun c hc => beq_eq_false_iff_ne.mpr ?_) more
  rintro rfl
  exact h hc

theorem of_mem_dropSlashes {text : List Char} {c : Char} (h : c ∈ dropSlashes text) : c ∈ text :=
  (List.rdropWhile_prefix (· == '/') text).subset h

theorem dropSlashes_dropSlashes (text : List Char) :
    dropSlashes (dropSlashes text) = dropSlashes text := List.rdropWhile_idempotent _ text

/-- Without slashes at its end a path has no empty segments there. -/
theorem dropSlashes_renderSegments {segments : List (List Char)}
    (h : ∀ s ∈ segments, '/' ∉ s) :
    dropSlashes (Path.renderSegments segments) =
      Path.renderSegments (segments.rdropWhile List.isEmpty) := by
  induction segments using List.reverseRecOn with
  | nil => rfl
  | append_singleton segments last ih =>
    have hrender : Path.renderSegments (segments ++ [last]) =
        Path.renderSegments segments ++ '/' :: last := by
      simp [Path.renderSegments]
    rw [List.rdropWhile_concat]
    split
    · rename_i hempty
      rw [hrender, List.isEmpty_iff.mp hempty, dropSlashes_eq_rdropWhile,
        List.rdropWhile_concat_pos _ _ _ rfl]
      exact ih fun s hs => h s (List.mem_append_left _ hs)
    · rename_i hlast
      have hne : last ≠ [] := fun hnil => hlast (List.isEmpty_iff.mpr hnil)
      refine dropSlashes_eq_self fun hslash => h last (by simp) ?_
      rw [hrender, List.getLast?_append_of_ne_nil _ (by simp), List.getLast?_cons_of_ne_nil hne]
        at hslash
      exact List.mem_of_getLast? hslash

/-! ## Lower case -/

/-- Text without capitals of ASCII. -/
def IsLower (text : List Char) : Prop := ∀ c ∈ text, c.toLower = c

theorem asciiLowercase_eq_self {text : List Char} (h : IsLower text) : asciiLowercase text = text :=
  (List.map_congr_left h).trans (List.map_id _)

theorem isLower_asciiLowercase (text : List Char) : IsLower (asciiLowercase text) := by
  intro c hc
  obtain ⟨d, -, rfl⟩ := List.mem_map.mp hc
  exact Char.toLower_toLower_eq_toLower d

/-- The URL in lower case. -/
def lowered (url : Url) : Url :=
  { url with
    username := asciiLowercase url.username
    password := asciiLowercase url.password
    path :=
      match url.path with
      | .segments list => .segments (list.map asciiLowercase)
      | .plain text => .plain (asciiLowercase text)
    query := url.query.map asciiLowercase
    fragment := url.fragment.map asciiLowercase }

theorem IsWritten.lowered {url : Url} (h : url.IsWritten) : url.lowered.IsWritten where
  isWeb := h.isWeb
  username := Percent.isEscaped_userinfoSet.asciiLowercase h.username
  password := Percent.isEscaped_userinfoSet.asciiLowercase h.password
  host := h.host
  port := h.port
  path := by
    obtain ⟨segments, hpath, hne, hsegments⟩ := h.path
    refine ⟨segments.map asciiLowercase, by simp [Url.lowered, hpath], by simpa using hne, ?_⟩
    intro s hs
    obtain ⟨segment, hsegment, rfl⟩ := List.mem_map.mp hs
    exact (hsegments segment hsegment).asciiLowercase
  query text htext := by
    obtain ⟨query, hquery, rfl⟩ := Option.map_eq_some_iff.mp htext
    exact Percent.isEscaped_specialQuerySet.asciiLowercase (h.query query hquery)
  fragment text htext := by
    obtain ⟨fragment, hfragment, rfl⟩ := Option.map_eq_some_iff.mp htext
    exact Percent.isEscaped_fragmentSet.asciiLowercase (h.fragment fragment hfragment)

theorem asciiLowercase_renderSegments (segments : List (List Char)) :
    asciiLowercase (Path.renderSegments segments) =
      Path.renderSegments (segments.map asciiLowercase) := by
  induction segments with
  | nil => rfl
  | cons segment rest ih =>
    have hcons : ∀ (s : List Char) (more : List (List Char)),
        Path.renderSegments (s :: more) = '/' :: (s ++ Path.renderSegments more) :=
      fun s more => List.flatMap_cons
    rw [List.map_cons, hcons, hcons, ← ih, ← asciiLowercase_append]
    rfl

theorem asciiLowercase_renderPart (mark : Char) (hmark : mark.toLower = mark)
    (part : Option (List Char)) :
    asciiLowercase (renderPart mark part) = renderPart mark (part.map asciiLowercase) := by
  cases part with
  | none => rfl
  | some text =>
    show mark.toLower :: asciiLowercase text = _
    rw [hmark]
    rfl

theorem IsWritten.renderUserinfo_lowered (url : Url) :
    url.lowered.renderUserinfo = asciiLowercase url.renderUserinfo := by
  have hempty : ∀ text, (asciiLowercase text).isEmpty = text.isEmpty := by
    intro text
    cases text <;> rfl
  unfold renderUserinfo
  simp only [Url.lowered, hempty]
  split
  · rfl
  · simp only [asciiLowercase_append]
    split <;> rfl

theorem IsWritten.renderAuthority_lowered {url : Url} (h : url.IsWritten) :
    url.lowered.renderAuthority = asciiLowercase url.renderAuthority := by
  have hserver : url.lowered.renderServer = asciiLowercase url.renderServer :=
    (asciiLowercase_eq_self fun c hc => (h.of_mem_renderServer hc).small).symm
  rw [h.lowered.renderAuthority_eq, h.renderAuthority_eq, renderUserinfo_lowered, hserver,
    asciiLowercase_append]
  rfl

/-- The URL in lower case is written as the URL is, in lower case. -/
theorem IsWritten.render_lowered {url : Url} (h : url.IsWritten) :
    url.lowered.render = asciiLowercase url.render := by
  obtain ⟨segments, hpath, -⟩ := h.path
  have hlowered : url.lowered.path = .segments (segments.map asciiLowercase) := by
    simp [Url.lowered, hpath]
  have hcolon : ∀ text, asciiLowercase (':' :: text) = ':' :: asciiLowercase text := fun _ => rfl
  rw [IsWritten.render_eq_renderWith hpath, IsWritten.render_eq_renderWith hlowered]
  simp only [renderWith, asciiLowercase_append, hcolon, asciiLowercase_renderSegments,
    asciiLowercase_renderPart '?' rfl, asciiLowercase_renderPart '#' rfl, h.renderAuthority_lowered,
    asciiLowercase_eq_self fun c hc => (h.of_mem_scheme hc).small]
  rfl

/-! ## Canonical links -/

/-- The canonical spelling of a URL of the web that was read. -/
theorem IsWritten.canonical?_eq {url : Url} (h : url.IsWritten) :
    canonical? url = some (if url.query.isNone ∧ url.fragment.isNone then
      dropSlashes url.lowered.render else url.lowered.render) := by
  obtain ⟨host, hhost, hwritten⟩ := h.host
  have hne : host ≠ .empty := by
    rintro rfl
    exact hwritten.ne_nil rfl
  unfold canonical?
  rw [if_pos ⟨h.isWeb, by simp [hostText?, hhost, hne]⟩, h.render_lowered]

theorem visible_render {url : Url} (h : url.IsWritten) :
    ∀ c ∈ url.render, IsVisible c := by
  obtain ⟨segments, hpath, -, hsegments⟩ := h.path
  rw [IsWritten.render_eq_renderWith hpath]
  exact h.visible_renderWith fun c hc => (IsWritten.of_mem_renderSegments hsegments hc).1

/-- A link is the canonical spelling of the URL it is read as. -/
theorem exists_parse?_of_canonicalLink? {link : List Char} {place : Option (List Char)}
    {found : List Char} (h : canonicalLink? link place = some found) :
    ∃ url : Url, parse? (place.bind place?) (cleanLink link) = some url ∧ url.IsWritten ∧
      canonical? url = some found := by
  unfold canonicalLink? at h
  simp only at h
  split at h
  · cases h
  · obtain ⟨url, hurl, hfound⟩ := Option.bind_eq_some_iff.mp h
    have hweb : url.isWeb := by
      unfold canonical? at hfound
      split at hfound
      · rename_i hweb
        exact hweb.1
      · cases hfound
    refine ⟨url, hurl, isWritten_of_parse? (fun base hbase hweb => ?_) hurl hweb, hfound⟩
    obtain ⟨text, -, htext⟩ := Option.bind_eq_some_iff.mp hbase
    exact isWritten_of_parse? (fun _ hnone => by cases hnone) htext hweb

/-- A link is the canonical spelling of a URL that was read. -/
theorem exists_of_canonicalLink? {link : List Char} {place : Option (List Char)} {found : List Char}
    (h : canonicalLink? link place = some found) :
    ∃ url : Url, url.IsWritten ∧ canonical? url = some found := by
  obtain ⟨url, -, hurl, hfound⟩ := exists_parse?_of_canonicalLink? h
  exact ⟨url, hurl, hfound⟩

/-- A canonical link can be seen and is in lower case. -/
theorem of_mem_canonicalLink? {link : List Char} {place : Option (List Char)} {found : List Char}
    (h : canonicalLink? link place = some found) :
    ∀ c ∈ found, IsVisible c ∧ c.toLower = c := by
  obtain ⟨url, hurl, hfound⟩ := exists_of_canonicalLink? h
  have hchars : ∀ c ∈ url.lowered.render, IsVisible c ∧ c.toLower = c := by
    intro c hc
    refine ⟨visible_render hurl.lowered c hc, ?_⟩
    rw [hurl.render_lowered] at hc
    exact isLower_asciiLowercase _ c hc
  rw [hurl.canonical?_eq] at hfound
  split at hfound
  · cases hfound
    exact fun c hc => hchars c (of_mem_dropSlashes hc)
  · cases hfound
    exact hchars

/-- What can be seen is not blank. -/
theorem IsVisible.isBlank {c : Char} (h : IsVisible c) : isBlank c = false :=
  forall_ascii (P := fun c => IsVisible c → Text.isBlank c = false) (by decide) h.lt h

theorem trim_eq_self {text : List Char} (h : ∀ c ∈ text, IsVisible c) : trim text = text :=
  strip_eq_self fun c hc => (h c hc).isBlank

/-- Nothing but slashes at its end is taken from a link in lower case that can be seen. -/
theorem cleanLink_eq {link : List Char}
    (h : ∀ c ∈ link, IsVisible c ∧ c.toLower = c) :
    cleanLink link = dropSlashes link := by
  unfold cleanLink
  rw [trim_eq_self fun c hc => (h c hc).1, lowercase_ascii link fun c hc => (h c hc).1.lt,
    asciiLowercase_eq_self fun c hc => (h c hc).2]

/-- The canonical spelling of a link that is read as a URL without its last slashes. -/
theorem canonicalLink?_of_parse? {link : List Char} {url : Url}
    (hlink : ∀ c ∈ link, IsVisible c ∧ c.toLower = c)
    (hurl : parse? none (dropSlashes link) = some url) :
    canonicalLink? link none = canonical? url := by
  have hne : (dropSlashes link).isEmpty = false := by
    cases hempty : dropSlashes link with
    | nil =>
      rw [hempty] at hurl
      cases hurl
    | cons c rest => rfl
  unfold canonicalLink?
  simp only [cleanLink_eq hlink, hne, Bool.false_eq_true, if_false]
  rw [show (none : Option (List Char)).bind place? = none from rfl, hurl, Option.bind_some]

/-- What a URL is written as before its path. -/
def renderOrigin (url : Url) : List Char := url.scheme ++ ':' :: url.renderAuthority

theorem render_of_fragment {url : Url} {text : List Char} (h : url.fragment = some text) :
    url.render =
      url.renderOrigin ++ url.path.render ++ renderPart '?' url.query ++ ['#'] ++ text := by
  simp [render, renderOrigin, renderPart, h]

theorem render_of_query {url : Url} {text : List Char} (h : url.query = some text)
    (hnone : url.fragment = none) :
    url.render = url.renderOrigin ++ url.path.render ++ ['?'] ++ text := by
  simp [render, renderOrigin, renderPart, h, hnone]

/-- A canonical link of a URL that has a query or a fragment, of which it is read without the
slashes at its end. -/
theorem canonicalLink?_of_part {url : Url} {text part : List Char} (next : Url) (h : next.IsWritten)
    (hpart : ¬ (next.query.isNone ∧ next.fragment.isNone)) (hurl : url.render = text ++ part)
    (htext : text.getLast? ≠ some '/') (hnext : next.render = text ++ dropSlashes part)
    (hlink : ∀ c ∈ url.render, IsVisible c ∧ c.toLower = c) :
    canonicalLink? url.render none = some (dropSlashes url.render) := by
  have hdrop : dropSlashes url.render = next.render := by
    rw [hurl, dropSlashes_append htext, hnext]
  have hparse : parse? none (dropSlashes url.render) = some next := by
    rw [hdrop, h.parse?_render]
  have hlower : asciiLowercase next.render = next.render := by
    refine asciiLowercase_eq_self fun c hc => (hlink c (of_mem_dropSlashes ?_)).2
    rwa [hdrop]
  rw [canonicalLink?_of_parse? hlink hparse, h.canonical?_eq, if_neg hpart, h.render_lowered,
    hlower, hdrop]

theorem IsWritten.getLast?_renderOrigin {url : Url} (h : url.IsWritten) :
    url.renderOrigin.getLast? ≠ some '/' := by
  obtain ⟨host, hhost, hwritten⟩ := h.host
  have hne : url.renderServer ≠ [] := by simp [renderServer, hhost, hwritten.ne_nil]
  have hserver : url.renderOrigin =
      (url.scheme ++ ':' :: '/' :: '/' :: url.renderUserinfo) ++ url.renderServer := by
    simp [renderOrigin, h.renderAuthority_eq]
  rw [hserver, List.getLast?_append_of_ne_nil _ hne]
  intro hslash
  exact (h.of_mem_renderServer (List.mem_of_getLast? hslash)).slash rfl

/-- What a path without empty segments at its end is read as: itself, and if nothing is left
of it one empty segment. -/
theorem pathAfterHost_rdropWhile {segments : List (List Char)} (h : ∀ s ∈ segments, IsSegment s) :
    ∃ next, pathAfterHost .special (Path.renderSegments (segments.rdropWhile List.isEmpty)) = next ∧
      next ≠ [] ∧ (∀ s ∈ next, IsSegment s) ∧
      next.rdropWhile List.isEmpty = segments.rdropWhile List.isEmpty ∧
      ∀ c ∈ Path.renderSegments next,
        c = '/' ∨ c ∈ Path.renderSegments (segments.rdropWhile List.isEmpty) := by
  have hkept : ∀ s ∈ segments.rdropWhile List.isEmpty, IsSegment s := fun s hs =>
    h s ((List.rdropWhile_prefix _ segments).subset hs)
  have hself := List.rdropWhile_idempotent List.isEmpty segments
  generalize segments.rdropWhile List.isEmpty = kept at hkept hself
  by_cases hnone : kept = []
  · subst hnone
    refine ⟨[[]], pathAfterHost_nil, by simp, ?_, rfl, ?_⟩
    · simpa using IsSegment.nil
    · exact fun c hc => .inl (List.mem_singleton.mp hc)
  · exact ⟨kept, pathAfterHost_renderSegments hnone hkept, hnone, hkept, hself, fun c hc => .inr hc⟩

theorem renderWith_of_none {url : Url} (hquery : url.query = none) (hfragment : url.fragment = none)
    (path : List Char) : url.renderWith path = url.renderOrigin ++ path := by
  simp [renderWith, renderOrigin, renderPart, hquery, hfragment]

/-- Where nothing follows the path, slashes are dropped from the path. -/
theorem IsWritten.dropSlashes_renderWith {url : Url} (h : url.IsWritten) (hquery : url.query = none)
    (hfragment : url.fragment = none) {segments : List (List Char)}
    (hsegments : ∀ s ∈ segments, IsSegment s) :
    dropSlashes (url.renderWith (Path.renderSegments segments)) =
      url.renderWith (Path.renderSegments (segments.rdropWhile List.isEmpty)) := by
  have hslash : ∀ s ∈ segments, '/' ∉ s := fun s hs hmem =>
    absurd ((hsegments s hs).free '/' hmem) (by decide)
  rw [renderWith_of_none hquery hfragment, renderWith_of_none hquery hfragment,
    dropSlashes_append h.getLast?_renderOrigin, dropSlashes_renderSegments hslash]

/-- A canonical link of a URL without query and fragment. -/
theorem canonicalLink?_of_path {url : Url} (h : url.IsWritten) (hquery : url.query = none)
    (hfragment : url.fragment = none)
    (hlink : ∀ c ∈ dropSlashes url.render, IsVisible c ∧ c.toLower = c) :
    canonicalLink? (dropSlashes url.render) none = some (dropSlashes url.render) := by
  obtain ⟨segments, hpath, -, hsegments⟩ := h.path
  have hfound : dropSlashes url.render =
      url.renderWith (Path.renderSegments (segments.rdropWhile List.isEmpty)) := by
    rw [IsWritten.render_eq_renderWith hpath, h.dropSlashes_renderWith hquery hfragment hsegments]
  obtain ⟨read, hread, hne, hreadSegments, hkept, hchars⟩ := pathAfterHost_rdropWhile hsegments
  set next : Url := { url with path := .segments read } with hnext
  have hwritten : next.IsWritten := { h with path := ⟨read, rfl, hne, hreadSegments⟩ }
  have hparse : parse? none (dropSlashes (dropSlashes url.render)) = some next := by
    have hsubset := (List.rdropWhile_prefix List.isEmpty segments).subset
    rw [dropSlashes_dropSlashes, hfound,
      h.parse?_renderWith (fun _ => IsWritten.head_renderSegments)
        (fun _ => IsWritten.of_mem_renderSegments fun s hs => hsegments s (hsubset hs)), hread]
  have hrender : next.render = url.renderWith (Path.renderSegments read) := by
    rw [IsWritten.render_eq_renderWith (rfl : next.path = .segments read)]
    rfl
  -- What is read differs from the link by no more than the slash of an empty path.
  have hlower : asciiLowercase next.render = next.render := by
    refine asciiLowercase_eq_self fun c hc => ?_
    rw [hrender, renderWith_of_none hquery hfragment] at hc
    rw [hfound, renderWith_of_none hquery hfragment] at hlink
    rcases List.mem_append.mp hc with hc | hc
    · exact (hlink c (List.mem_append_left _ hc)).2
    rcases hchars c hc with rfl | hc
    · rfl
    · exact (hlink c (List.mem_append_right _ hc)).2
  rw [canonicalLink?_of_parse? hlink hparse, hwritten.canonical?_eq, hwritten.render_lowered,
    hlower, if_pos (by simp [hnext, hquery, hfragment]), hrender,
    h.dropSlashes_renderWith hquery hfragment hreadSegments, hkept, ← hfound]

/-- A canonical link read again is the link without the slashes at its end, and it ends in
slashes only behind the mark of a query or a fragment. -/
theorem canonicalLink_again {link : List Char} {place : Option (List Char)}
    {found : List Char} (h : canonicalLink? link place = some found) :
    canonicalLink? found none = some (dropSlashes found) ∧
      ('?' ∉ found → '#' ∉ found → dropSlashes found = found) := by
  have hchars := of_mem_canonicalLink? h
  obtain ⟨url, hurl, hfound⟩ := exists_of_canonicalLink? h
  have hwritten := hurl.lowered
  rw [hurl.canonical?_eq, Option.some.injEq] at hfound
  have hquery : url.query.isNone = url.lowered.query.isNone := by simp [lowered]
  have hfragment : url.fragment.isNone = url.lowered.fragment.isNone := by simp [lowered]
  rw [hquery, hfragment] at hfound
  clear hquery hfragment hurl
  generalize url.lowered = url at *
  -- The link ends in what the URL has last: a fragment, a query, or a path.
  cases hfragment : url.fragment with
  | some text =>
    rw [hfragment, if_neg (by simp)] at hfound
    subst hfound
    have hrender := render_of_fragment hfragment
    refine ⟨?_, fun _ hmark => absurd (by simp [hrender]) hmark⟩
    refine canonicalLink?_of_part { url with fragment := some (dropSlashes text) }
      { hwritten with fragment := ?_ } (by simp) hrender (by simp) (render_of_fragment rfl) hchars
    rintro more hmore c hc
    cases hmore
    exact hwritten.fragment text hfragment c (of_mem_dropSlashes hc)
  | none =>
    cases hquery : url.query with
    | some text =>
      rw [hquery, if_neg (by simp)] at hfound
      subst hfound
      have hrender := render_of_query hquery hfragment
      refine ⟨?_, fun hmark _ => absurd (by simp [hrender]) hmark⟩
      refine canonicalLink?_of_part { url with query := some (dropSlashes text) }
        { hwritten with query := ?_ } (by simp) hrender (by simp) (render_of_query rfl hfragment)
        hchars
      rintro more hmore c hc
      cases hmore
      exact hwritten.query text hquery c (of_mem_dropSlashes hc)
    | none =>
      rw [hquery, hfragment, if_pos (by simp)] at hfound
      subst hfound
      refine ⟨?_, fun _ _ => dropSlashes_dropSlashes _⟩
      rw [dropSlashes_dropSlashes]
      exact canonicalLink?_of_path hwritten hquery hfragment hchars

/-- A query that ends in a slash, since the blank behind it is not part of the URL: read
again, the link loses the slash. -/
theorem canonicalLink_again_querySlash :
    canonicalLink? "http://x.test/?a/ /".toList none = some "http://x.test/?a/".toList ∧
      canonicalLink? "http://x.test/?a/".toList none =
        some (dropSlashes "http://x.test/?a/".toList) ∧
      ('?' ∉ "http://x.test/?a/".toList → '#' ∉ "http://x.test/?a/".toList →
        dropSlashes "http://x.test/?a/".toList = "http://x.test/?a/".toList) :=
  have hfound : canonicalLink? "http://x.test/?a/ /".toList none =
      some "http://x.test/?a/".toList := by decide +kernel
  ⟨hfound, canonicalLink_again hfound⟩

/-- Not every canonical link is its own canonical spelling. -/
theorem canonicalLink_not_fixed :
    ¬ ∀ (link : List Char) (place : Option (List Char)) (found : List Char),
      canonicalLink? link place = some found → canonicalLink? found none = some found := by
  intro h
  have hagain := h "http://x.test/?a/ /".toList none "http://x.test/?a/".toList (by decide +kernel)
  exact absurd hagain (by decide +kernel)

end LinkDigest.Url
