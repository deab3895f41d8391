import LinkDigest.Proofs.Url.Written

/-!
# What is read

Every URL of the web that is read, on its own or against another URL, has its parts as
they are written.
-/

namespace LinkDigest.Url

open LinkDigest.Text

/-! ## Parts -/

theorem escaped_escapeQuery {query : Option (List Char)} {text : List Char}
    (h : escapeQuery .special query = some text) :
    ∀ c ∈ text, Percent.specialQuerySet c = false := by
  obtain ⟨raw, -, rfl⟩ := Option.map_eq_some_iff.mp h
  exact fun c hc => Percent.of_mem_encode Percent.isEscaped_specialQuerySet hc

theorem escaped_escapeFragment {fragment : Option (List Char)} {text : List Char}
    (h : escapeFragment fragment = some text) :
    ∀ c ∈ text, Percent.fragmentSet c = false := by
  obtain ⟨raw, -, rfl⟩ := Option.map_eq_some_iff.mp h
  exact fun c hc => Percent.of_mem_encode Percent.isEscaped_fragmentSet hc

theorem port?_bound {scheme text : List Char} {port : Option Nat}
    (h : port? scheme text = some port) :
    ∀ n, port = some n → n ≤ 65535 ∧ defaultPort? scheme ≠ some n := by
  rintro n rfl
  unfold port? at h
  split at h
  · cases h
  split at h
  · simp only at h
    split at h
    · cases h
    split at h
    · cases h
    · rename_i hle
      injection h with h
      split at h
      · cases h
      · rename_i hdefault
        cases h
        exact ⟨Nat.le_of_not_lt hle, hdefault⟩
  · cases h

/-! ## Authorities -/

/-- The parts of a URL whose body is a host and a path. -/
theorem exists_of_withAuthority? {scheme text : List Char} {kind : SchemeKind} {r : Reference}
    {url : Url} (h : withAuthority? scheme kind r text = some url) :
    ∃ info hostText host portText port path,
      (if kind = .special then Host.special? hostText else Host.general? hostText) = some host ∧
      port? scheme portText = some port ∧
      url = {
        scheme := scheme
        username := (userinfo info).1
        password := (userinfo info).2
        host := some host
        port := port
        path := .segments (pathAfterHost kind path)
        query := escapeQuery kind r.query
        fragment := escapeFragment r.fragment } := by
  unfold withAuthority? at h
  simp only at h
  generalize (splitUserinfo (text.takeWhile fun c => !isSlash kind c)).1 = info at h
  generalize splitPort false (splitUserinfo (text.takeWhile fun c => !isSlash kind c)).2 = server
    at h
  split at h
  · cases h
  · split at h
    all_goals
      rename_i hkind
      simp only [Option.bind_eq_bind, Option.bind_eq_some_iff, Option.pure_def,
        Option.some.injEq] at h
      obtain ⟨host, hhost, port, hport, rfl⟩ := h
      refine ⟨_, server.1, host, _, port, _, ?_, hport, rfl⟩
      simpa [hkind] using hhost

theorem isWritten_of_withAuthority? {scheme text : List Char} {r : Reference} {url : Url}
    (h : withAuthority? scheme .special r text = some url) (hweb : url.isWeb) :
    url.IsWritten := by
  obtain ⟨info, hostText, host, portText, port, path, hhost, hport, rfl⟩ :=
    exists_of_withAuthority? h
  have hpath := isSegment_pathFrom (fun s hs => absurd hs List.not_mem_nil) (path.drop 1)
  exact {
    isWeb := hweb
    username := fun c hc => Percent.of_mem_encode Percent.isEscaped_userinfoSet hc
    password := fun c hc => Percent.of_mem_encode Percent.isEscaped_userinfoSet hc
    host := ⟨host, rfl, Host.written_of_special? hhost⟩
    port := port?_bound hport
    path := ⟨_, rfl, hpath⟩
    query := fun text htext => escaped_escapeQuery htext
    fragment := fun text htext => escaped_escapeFragment htext }

/-! ## Against another URL -/

theorem scheme_of_relative? {base url : Url} {kind : SchemeKind} {r : Reference}
    (h : relative? base kind r = some url) : url.scheme = base.scheme := by
  unfold relative? at h
  split at h
  · split at h
    · cases h
      rfl
    · cases h
  · simp only at h
    repeat' split at h
    all_goals first
      | (obtain ⟨_, _, _, _, _, _, -, -, rfl⟩ := exists_of_withAuthority? h; rfl)
      | (cases h; rfl)

theorem isWritten_of_relative? {base url : Url} {r : Reference} (hbase : base.IsWritten)
    (h : relative? base .special r = some url) : url.IsWritten := by
  have hweb : url.isWeb := by
    rw [isWeb_iff, scheme_of_relative? h]
    exact isWeb_iff.mp hbase.isWeb
  obtain ⟨above, hpath, hne, hsegments⟩ := hbase.path
  have habove : ∀ s ∈ above.reverse.drop 1, IsSegment s := fun s hs =>
    hsegments s (List.mem_reverse.mp (List.mem_of_mem_drop hs))
  unfold relative? at h
  rw [hpath] at h
  simp only at h
  split at h
  · cases h
    refine { hbase with
      isWeb := hweb
      path := ⟨above, rfl, hne, hsegments⟩
      query := fun text htext => ?_
      fragment := fun text htext => escaped_escapeFragment htext }
    simp only at htext
    split at htext
    · exact escaped_escapeQuery htext
    · exact hbase.query text htext
  split at h
  · exact isWritten_of_withAuthority? h hweb
  split at h
  · exact isWritten_of_withAuthority? h hweb
  split at h
  all_goals
    cases h
    refine { hbase with
      isWeb := hweb
      path := ⟨_, rfl, isSegment_pathFrom ?_ _⟩
      query := fun text htext => escaped_escapeQuery htext
      fragment := fun text htext => escaped_escapeFragment htext }
  · simp
  · exact habove

/-! ## Any reference -/

theorem scheme_of_file? {base : Option Url} {r : Reference} {url : Url}
    (hbase : ∀ b, base = some b → b.scheme = "file".toList) (h : file? base r = some url) :
    url.scheme = "file".toList := by
  unfold file? at h
  simp only [Option.bind_eq_bind, Option.pure_def] at h
  repeat' split at h
  all_goals first
    | (cases h; rfl)
    | (cases h; simpa using hbase)
    | (obtain ⟨host, -, hurl⟩ := Option.bind_eq_some_iff.mp h; cases hurl; rfl)

theorem ofScheme_eq_file {scheme : List Char} (h : SchemeKind.ofScheme scheme = .file) :
    scheme = "file".toList := by
  unfold SchemeKind.ofScheme at h
  split at h
  · rename_i heq
    exact beq_iff_eq.mp heq
  · split at h <;> cases h

theorem ofScheme_of_isWeb {url : Url} (h : url.isWeb) :
    SchemeKind.ofScheme url.scheme = .special := ofScheme_web (isWeb_iff.mp h)

/-- A URL of the web that was read, on its own or against one that was read. -/
theorem isWritten_of_parse? {base : Option Url} {text : List Char} {url : Url}
    (hbase : ∀ b, base = some b → b.isWeb → b.IsWritten) (h : parse? base text = some url)
    (hweb : url.isWeb) : url.IsWritten := by
  have hkind := ofScheme_of_isWeb hweb
  have hrelative : ∀ b r, base = some b → relative? b .special r = some url → url.IsWritten := by
    intro b r hsome hrelative
    refine isWritten_of_relative? (hbase b hsome ?_) hrelative
    rw [isWeb_iff, ← scheme_of_relative? hrelative]
    exact isWeb_iff.mp hweb
  -- A file stays a file, and what is no URL of the web keeps its scheme.
  have hfile : url.scheme ≠ "file".toList := by
    intro hscheme
    rw [hscheme] at hkind
    cases hkind
  unfold parse? resolve? at h
  generalize Reference.ofText text = r at h
  split at h
  · -- Without a scheme the text is read against the base.
    split at h
    · cases h
    · rename_i b
      split at h
      · rename_i hb
        refine absurd (scheme_of_file? (fun other hother => ?_) h) hfile
        rw [← Option.some.inj hother]
        exact ofScheme_eq_file hb
      · have hsame : SchemeKind.ofScheme b.scheme = .special := by
          rw [← scheme_of_relative? h, hkind]
        rw [hsame] at h
        exact hrelative b r rfl h
  · rename_i scheme _
    split at h
    · rename_i hscheme
      refine absurd (scheme_of_file? (fun b hb => ?_) h) hfile
      rw [beq_iff_eq.mp (Option.filter_eq_some_iff.mp hb).2]
      exact ofScheme_eq_file hscheme
    · -- A scheme of the web with one slash or none may still be read against the base.
      split at h
      · rename_i b
        simp only at h
        split at h
        · exact hrelative b r rfl h
        · exact isWritten_of_withAuthority? h hweb
      · exact isWritten_of_withAuthority? h hweb
    · rename_i hscheme
      have hsame : url.scheme = scheme := by
        split at h
        · obtain ⟨_, _, _, _, _, _, -, -, rfl⟩ := exists_of_withAuthority? h
          rfl
        · cases h
          rfl
        · cases h
          rfl
      rw [hsame, hscheme] at hkind
      cases hkind

end LinkDigest.Url
