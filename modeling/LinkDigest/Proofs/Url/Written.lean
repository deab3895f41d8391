import LinkDigest.Proofs.Text.Blank
import LinkDigest.Proofs.Url.Host
import LinkDigest.Proofs.Url.Path
import Mathlib.Data.List.TakeWhile

/-!
# Reading URLs that were written

A URL of the web that has been read has all its parts as they are written: escaped, and
without the signs that part them. So what is written for it is read as that URL again.
-/

namespace LinkDigest.Url

open LinkDigest.Text

/-- A URL of the web whose parts are as they are written. -/
structure IsWritten (url : Url) : Prop where
  isWeb : url.isWeb
  username : ∀ c ∈ url.username, Percent.userinfoSet c = false
  password : ∀ c ∈ url.password, Percent.userinfoSet c = false
  host : ∃ host, url.host = some host ∧ host.Written
  port : ∀ port, url.port = some port → port ≤ 65535 ∧ defaultPort? url.scheme ≠ some port
  path : ∃ segments, url.path = .segments segments ∧ segments ≠ [] ∧ ∀ s ∈ segments, IsSegment s
  query : ∀ text, url.query = some text → ∀ c ∈ text, Percent.specialQuerySet c = false
  fragment : ∀ text, url.fragment = some text → ∀ c ∈ text, Percent.fragmentSet c = false

/-! ## Cutting -/

theorem clean_eq_self {s : List Char} (h : ∀ c ∈ s, 0x20 < c.toNat) : clean s = s := by
  unfold clean
  rw [strip_eq_self fun c hc => decide_eq_false (Nat.not_le.mpr (h c hc)), List.filter_eq_self]
  intro c hc
  have hc := h c hc
  have hne : ∀ d : Char, d.toNat ≤ 0x20 → c ≠ d := fun d hd heq => by
    rw [heq] at hc
    omega
  simp [hne '\t' (by decide), hne '\n' (by decide), hne '\r' (by decide)]

/-- A text is cut where its last part begins. -/
theorem cutAt_renderPart {mark : Char} {text : List Char} (h : ∀ c ∈ text, c ≠ mark)
    (part : Option (List Char)) : cutAt mark (text ++ renderPart mark part) = (text, part) := by
  have hpos : ∀ c ∈ text, (c != mark) = true := fun c hc => bne_iff_ne.mpr (h c hc)
  unfold cutAt
  rw [List.dropWhile_append_of_pos hpos, List.takeWhile_append_of_pos hpos]
  cases part with
  | none => simp [renderPart]
  | some more => simp [renderPart]

theorem splitScheme_web {scheme : List Char} (h : scheme = "http".toList ∨ scheme = "https".toList)
    (rest : List Char) : splitScheme (scheme ++ ':' :: rest) = some (scheme, rest) := by
  rcases h with rfl | rfl <;> rfl

theorem ofScheme_web {scheme : List Char} (h : scheme = "http".toList ∨ scheme = "https".toList) :
    SchemeKind.ofScheme scheme = .special := by
  rcases h with rfl | rfl <;> rfl

theorem isWeb_iff {url : Url} :
    url.isWeb ↔ url.scheme = "http".toList ∨ url.scheme = "https".toList := by
  simp [isWeb]

/-- The parts of a text that is put together from parts. -/
theorem ofText_append {scheme body : List Char} {query fragment : Option (List Char)}
    (hscheme : scheme = "http".toList ∨ scheme = "https".toList)
    (hvisible : ∀ c ∈ scheme ++ ':' :: body ++ renderPart '?' query ++ renderPart '#' fragment,
      0x20 < c.toNat)
    (hbody : ∀ c ∈ body, c ≠ '?' ∧ c ≠ '#') (hquery : ∀ text, query = some text → '#' ∉ text) :
    Reference.ofText (scheme ++ ':' :: body ++ renderPart '?' query ++ renderPart '#' fragment) =
      ⟨some scheme, body, query, fragment⟩ := by
  have hcut : ∀ c ∈ body ++ renderPart '?' query, c ≠ '#' := by
    intro c hc
    rcases List.mem_append.mp hc with hc | hc
    · exact (hbody c hc).2
    · cases query with
      | none => cases hc
      | some text =>
        rcases List.mem_cons.mp hc with rfl | hc
        · decide
        · rintro rfl
          exact hquery text rfl hc
  unfold Reference.ofText
  rw [clean_eq_self hvisible]
  simp only [List.append_assoc, List.cons_append]
  rw [splitScheme_web hscheme]
  simp only [Reference.ofRest]
  rw [← List.append_assoc body, cutAt_renderPart hcut]
  simp only
  rw [cutAt_renderPart fun c hc => (hbody c hc).1]

/-! ## Authorities -/

theorem splitUserinfo_of_none {server : List Char} (h : ∀ c ∈ server, c ≠ '@') :
    splitUserinfo server = (none, server) := by
  have hserver : ∀ c ∈ server.reverse, (c != '@') = true := fun c hc =>
    bne_iff_ne.mpr (h c (List.mem_reverse.mp hc))
  unfold splitUserinfo
  simp [List.takeWhile_eq_self_iff.mpr hserver]

theorem splitUserinfo_append {info server : List Char} (h : ∀ c ∈ server, c ≠ '@') :
    splitUserinfo (info ++ '@' :: server) = (some info, server) := by
  have hserver : ∀ c ∈ server.reverse, (c != '@') = true := fun c hc =>
    bne_iff_ne.mpr (h c (List.mem_reverse.mp hc))
  have hafter : (info ++ '@' :: server).reverse.takeWhile (· != '@') = server.reverse := by
    rw [List.reverse_append, List.reverse_cons, List.append_assoc,
      List.takeWhile_append_of_pos hserver]
    simp
  have hlength : (info ++ '@' :: server).length - server.length - 1 = info.length := by
    simp
    omega
  unfold splitUserinfo
  simp only [hafter, List.reverse_reverse, hlength, List.take_left]
  rw [if_pos (by simp; omega)]

theorem userinfo_append {username password : List Char}
    (husername : ∀ c ∈ username, Percent.userinfoSet c = false)
    (hpassword : ∀ c ∈ password, Percent.userinfoSet c = false) :
    userinfo (username ++ if password.isEmpty then [] else ':' :: password) =
      (username, password) := by
  have hpart : (if password.isEmpty then [] else ':' :: password) =
      renderPart ':' (if password.isEmpty then none else some password) := by
    split <;> rfl
  have hcolon : ∀ c ∈ username, c ≠ ':' := by
    rintro c hc rfl
    exact absurd (husername _ hc) (by decide)
  unfold userinfo
  rw [hpart, cutAt_renderPart hcolon]
  simp only [Percent.encode_eq_self husername]
  cases password with
  | nil => rfl
  | cons c rest => simp [Percent.encode_eq_self hpassword]

/-- A port as it is written behind a host. -/
def renderPort : Option Nat → List Char
  | none => []
  | some port => ':' :: Ipv4.decimal port

theorem port?_renderPort {scheme : List Char} {port : Option Nat}
    (h : ∀ n, port = some n → n ≤ 65535 ∧ defaultPort? scheme ≠ some n) :
    port? scheme (renderPort port) = some port := by
  cases port with
  | none => rfl
  | some n =>
    obtain ⟨hle, hdefault⟩ := h n rfl
    have hdigits : (Ipv4.decimal n).all Char.isDigit :=
      List.all_eq_true.mpr fun c hc => Ipv4.isDigit_of_mem_decimal hc
    have hne : (Ipv4.decimal n).isEmpty = false := by simp [Ipv4.decimal_ne_nil]
    have hvalue : (Ipv4.decimal n).foldl (fun n c => n * 10 + (c.toNat - 48)) 0 = n :=
      Text.foldl_toString n
    unfold renderPort port?
    simp only [hdigits, if_true, hvalue, hne, Bool.false_eq_true, if_false]
    rw [if_neg (Nat.not_lt.mpr hle), if_neg hdefault]

/-- The server that a URL names: its host and port. -/
def renderServer (url : Url) : List Char :=
  (url.host.elim [] Host.render) ++ renderPort url.port

/-- What is written for a URL with another path. -/
def renderWith (url : Url) (path : List Char) : List Char :=
  url.scheme ++ ':' :: (url.renderAuthority ++ path) ++ renderPart '?' url.query ++
    renderPart '#' url.fragment

namespace IsWritten

variable {url : Url}

theorem renderAuthority_eq (h : url.IsWritten) :
    url.renderAuthority = '/' :: '/' :: url.renderUserinfo ++ url.renderServer := by
  obtain ⟨host, hhost, -⟩ := h.host
  unfold renderAuthority renderServer
  rw [hhost]
  cases url.port <;> simp [renderPort]

/-- The schemes of the web are written with characters that hosts are written with. -/
theorem of_mem_scheme (h : url.IsWritten) {c : Char} (hc : c ∈ url.scheme) :
    Host.IsHostChar c := by
  have hschemes : "https".toList.all fun c => Host.IsHostChar c := by decide
  refine of_decide_eq_true (List.all_eq_true.mp hschemes c ?_)
  rcases isWeb_iff.mp h.isWeb with hscheme | hscheme <;> rw [hscheme] at hc
  · exact List.mem_append_left ['s'] hc
  · exact hc

theorem of_mem_renderPort {port : Option Nat} {c : Char} (hc : c ∈ renderPort port) :
    c = ':' ∨ c.isDigit := by
  cases port with
  | none => cases hc
  | some n => exact (List.mem_cons.mp hc).imp_right Ipv4.isDigit_of_mem_decimal

/-- A colon and the figures of a port are characters that hosts are written with, too. -/
theorem of_mem_renderServer (h : url.IsWritten) {c : Char} (hc : c ∈ url.renderServer) :
    Host.IsHostChar c := by
  obtain ⟨host, hhost, hwritten⟩ := h.host
  unfold renderServer at hc
  rw [hhost] at hc
  rcases List.mem_append.mp hc with hc | hc
  · exact hwritten.chars c hc
  rcases of_mem_renderPort hc with rfl | hdigit
  · decide
  · exact forall_ascii (P := fun c => c.isDigit → Host.IsHostChar c) (by decide)
      (Domain.isSmall_of_isDigit hdigit).1 hdigit

theorem of_mem_renderUserinfo (h : url.IsWritten) {c : Char} (hc : c ∈ url.renderUserinfo) :
    IsFree c := by
  have hescaped : ∀ c, Percent.userinfoSet c = false → IsFree c := fun c hc =>
    forall_ascii (P := fun c => Percent.userinfoSet c = false → IsFree c) (by decide +kernel)
      (Percent.isEscaped_userinfoSet.visible hc).lt hc
  unfold renderUserinfo at hc
  split at hc
  · cases hc
  rcases List.mem_append.mp hc with hc | hc
  · rcases List.mem_append.mp hc with hc | hc
    · exact hescaped c (h.username c hc)
    split at hc
    · cases hc
    rcases List.mem_cons.mp hc with rfl | hc
    · decide
    · exact hescaped c (h.password c hc)
  · rw [List.mem_singleton.mp hc]
    decide

/-- User name, password, host and port are read as they were written. -/
theorem splitUserinfo_eq (h : url.IsWritten) :
    ∃ info, splitUserinfo (url.renderUserinfo ++ url.renderServer) = (info, url.renderServer) ∧
      userinfo (info.getD []) = (url.username, url.password) := by
  have hserver : ∀ c ∈ url.renderServer, c ≠ '@' := fun c hc => (h.of_mem_renderServer hc).sign
  unfold renderUserinfo
  split
  · rename_i hnone
    refine ⟨none, splitUserinfo_of_none hserver, ?_⟩
    rw [List.isEmpty_iff.mp hnone.1, List.isEmpty_iff.mp hnone.2]
    rfl
  · refine ⟨some _, ?_, userinfo_append h.username h.password⟩
    rw [List.append_assoc, List.singleton_append, splitUserinfo_append hserver]

theorem isSlash_of_isFree {c : Char} (h : IsFree c) : isSlash .special c = false := by
  simp [isSlash, h.slash, h.backslash]

/-- The host is parted from the port. -/
theorem splitPort_renderServer (h : url.IsWritten) :
    ∃ host, url.host = some host ∧ host.Written ∧
      splitPort false url.renderServer = (host.render, renderPort url.port) := by
  obtain ⟨host, hhost, hwritten⟩ := h.host
  refine ⟨host, hhost, hwritten, ?_⟩
  unfold renderServer
  rw [hhost]
  refine hwritten.splitPort _ fun c hc => ?_
  cases hsome : url.port with
  | none => simp [hsome, renderPort] at hc
  | some n => simpa [hsome, renderPort, eq_comm] using hc

/-- What comes before a path ends where the path begins. -/
theorem cut_renderServer (h : url.IsWritten) {path : List Char}
    (hpath : ∀ c, path.head? = some c → c = '/') :
    (url.renderUserinfo ++ url.renderServer ++ path).takeWhile (fun c => !isSlash .special c) =
        url.renderUserinfo ++ url.renderServer ∧
      (url.renderUserinfo ++ url.renderServer ++ path).dropWhile (fun c => !isSlash .special c) =
        path := by
  have hfree : ∀ c ∈ url.renderUserinfo ++ url.renderServer, (!isSlash .special c) = true := by
    intro c hc
    have hfree : IsFree c := (List.mem_append.mp hc).elim h.of_mem_renderUserinfo
      fun hc => (h.of_mem_renderServer hc).toIsFree
    rw [isSlash_of_isFree hfree]
    rfl
  rw [List.takeWhile_append_of_pos hfree, List.dropWhile_append_of_pos hfree]
  cases path with
  | nil => simp
  | cons c rest =>
    rw [hpath c rfl]
    simp [isSlash]

theorem escapeQuery_eq (h : url.IsWritten) : escapeQuery .special url.query = url.query := by
  cases hsome : url.query with
  | none => rfl
  | some text => simp [escapeQuery, Percent.encode_eq_self (h.query text hsome)]

theorem escapeFragment_eq (h : url.IsWritten) : escapeFragment url.fragment = url.fragment := by
  cases hsome : url.fragment with
  | none => rfl
  | some text => simp [escapeFragment, Percent.encode_eq_self (h.fragment text hsome)]

theorem withAuthority?_eq (h : url.IsWritten) {path : List Char} (r : Reference)
    (hpath : ∀ c, path.head? = some c → c = '/') (hquery : r.query = url.query)
    (hfragment : r.fragment = url.fragment) :
    withAuthority? url.scheme .special r (url.renderUserinfo ++ url.renderServer ++ path) =
      some { url with path := .segments (pathAfterHost .special path) } := by
  obtain ⟨info, hinfo, huserinfo⟩ := h.splitUserinfo_eq
  obtain ⟨host, hhost, hwritten, hport⟩ := h.splitPort_renderServer
  obtain ⟨htake, hdrop⟩ := h.cut_renderServer hpath
  unfold withAuthority?
  simp only [htake, hdrop, hinfo, hport, huserinfo, hwritten.special?, port?_renderPort h.port,
    hquery, hfragment, h.escapeQuery_eq, h.escapeFragment_eq]
  rw [if_neg fun hnone => hwritten.ne_nil (List.isEmpty_iff.mp hnone.1), hhost]
  rfl

/-- The parts of a URL can be seen, and those before the query have no mark of query or
fragment. -/
theorem of_mem_renderAuthority (h : url.IsWritten) {c : Char} (hc : c ∈ url.renderAuthority) :
    IsVisible c ∧ c ≠ '?' ∧ c ≠ '#' := by
  rw [h.renderAuthority_eq] at hc
  rcases List.mem_append.mp hc with hc | hc
  · rcases List.mem_cons.mp hc with rfl | hc
    · decide
    rcases List.mem_cons.mp hc with rfl | hc
    · decide
    · have huserinfo := h.of_mem_renderUserinfo hc
      exact ⟨huserinfo.visible, huserinfo.query, huserinfo.fragment⟩
  · have hserver := h.of_mem_renderServer hc
    exact ⟨hserver.visible, hserver.query, hserver.fragment⟩

theorem of_mem_renderPart {mark : Char} {p : Char → Bool} (hp : Percent.IsEscaped p)
    (hmark : IsVisible mark) {part : Option (List Char)}
    (hpart : ∀ text, part = some text → ∀ c ∈ text, p c = false) {c : Char}
    (hc : c ∈ renderPart mark part) : IsVisible c := by
  cases part with
  | none => cases hc
  | some text =>
    rcases List.mem_cons.mp hc with rfl | hc
    · exact hmark
    · exact hp.visible (hpart text rfl c hc)

theorem visible_renderWith (h : url.IsWritten) {path : List Char}
    (hpath : ∀ c ∈ path, IsVisible c) : ∀ c ∈ url.renderWith path, IsVisible c := by
  intro c hc
  rcases List.mem_append.mp hc with hc | hc
  · rcases List.mem_append.mp hc with hc | hc
    · rcases List.mem_append.mp hc with hc | hc
      · exact (h.of_mem_scheme hc).visible
      rcases List.mem_cons.mp hc with rfl | hc
      · decide
      · exact (List.mem_append.mp hc).elim (fun hc => (h.of_mem_renderAuthority hc).1) (hpath c)
    · exact of_mem_renderPart Percent.isEscaped_specialQuerySet (by decide) h.query hc
  · exact of_mem_renderPart Percent.isEscaped_fragmentSet (by decide) h.fragment hc

/-- The slashes before the host are all there are: neither user names nor hosts begin with
one. -/
theorem dropWhile_renderAuthority (h : url.IsWritten) (path : List Char) :
    (url.renderAuthority ++ path).dropWhile (isSlash .special) =
      url.renderUserinfo ++ url.renderServer ++ path := by
  obtain ⟨host, hhost, hwritten⟩ := h.host
  have hne : url.renderUserinfo ++ url.renderServer ≠ [] := by
    simp [renderServer, hhost, hwritten.ne_nil]
  have hslashes : url.renderAuthority ++ path =
      ['/', '/'] ++ (url.renderUserinfo ++ url.renderServer ++ path) := by
    rw [h.renderAuthority_eq]
    simp
  rw [hslashes, List.dropWhile_append_of_pos (by simp [isSlash])]
  refine dropWhile_of_head fun c hc => ?_
  rw [List.head?_append_of_ne_nil _ hne] at hc
  rcases List.mem_append.mp (List.mem_of_head? hc) with hc | hc
  · exact isSlash_of_isFree (h.of_mem_renderUserinfo hc)
  · exact isSlash_of_isFree (h.of_mem_renderServer hc).toIsFree

/-- A URL that is written with another path, or without one, is read with that path. -/
theorem parse?_renderWith (h : url.IsWritten) {path : List Char}
    (hhead : ∀ c, path.head? = some c → c = '/')
    (hpath : ∀ c ∈ path, IsVisible c ∧ c ≠ '?' ∧ c ≠ '#') :
    parse? none (url.renderWith path) =
      some { url with path := .segments (pathAfterHost .special path) } := by
  have hscheme := isWeb_iff.mp h.isWeb
  have hvisible := h.visible_renderWith fun c hc => (hpath c hc).1
  have hbody : ∀ c ∈ url.renderAuthority ++ path, c ≠ '?' ∧ c ≠ '#' := fun c hc =>
    (List.mem_append.mp hc).elim (fun hc => (h.of_mem_renderAuthority hc).2)
      fun hc => (hpath c hc).2
  have hquery : ∀ text, url.query = some text → '#' ∉ text := by
    intro text htext hmark
    exact absurd (h.query text htext '#' hmark) (by decide)
  unfold parse? renderWith
  rw [ofText_append hscheme (fun c hc => (hvisible c hc).1) hbody hquery]
  unfold resolve?
  simp only [ofScheme_web hscheme, h.dropWhile_renderAuthority]
  exact h.withAuthority?_eq _ hhead rfl rfl

/-- What is written for a path has no mark of query or fragment. -/
theorem of_mem_renderSegments {segments : List (List Char)}
    (hsegments : ∀ s ∈ segments, IsSegment s) {c : Char} (hc : c ∈ Path.renderSegments segments) :
    IsVisible c ∧ c ≠ '?' ∧ c ≠ '#' := by
  obtain ⟨segment, hsegment, hc⟩ := List.mem_flatMap.mp hc
  rcases List.mem_cons.mp hc with rfl | hc
  · decide
  · have hescaped := (hsegments segment hsegment).escaped c hc
    have hvisible := Percent.isEscaped_pathSet.visible hescaped
    exact ⟨hvisible, forall_ascii (P := fun c => Percent.pathSet c = false → c ≠ '?' ∧ c ≠ '#')
      (by decide +kernel) hvisible.lt hescaped⟩

theorem head_renderSegments {segments : List (List Char)} {c : Char}
    (hc : (Path.renderSegments segments).head? = some c) : c = '/' := by
  cases segments with
  | nil => cases hc
  | cons segment rest =>
    injection hc with hc
    exact hc.symm

theorem render_eq_renderWith {segments : List (List Char)} (hpath : url.path = .segments segments) :
    url.render = url.renderWith (Path.renderSegments segments) := by
  simp [render, renderWith, hpath, Path.render]

/-- What is written for a URL of the web is read as that URL. -/
theorem parse?_render (h : url.IsWritten) : parse? none url.render = some url := by
  obtain ⟨segments, hpath, hne, hsegments⟩ := h.path
  rw [render_eq_renderWith hpath, h.parse?_renderWith (fun _ => head_renderSegments)
    (fun _ => of_mem_renderSegments hsegments), pathAfterHost_renderSegments hne hsegments, ← hpath]

end IsWritten

end LinkDigest.Url
