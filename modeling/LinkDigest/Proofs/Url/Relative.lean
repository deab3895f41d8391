import LinkDigest.Proofs.Url.Shape

/-!
# Relative links

A link without a scheme and a host of its own leads to the host of the place it stands at. The
signs that could name another host do not come up in it however it is cleaned, and what is
written of the URL it is read as is read as a URL of the same host.
-/

namespace LinkDigest.Url

open LinkDigest.Text

/-! ## Cutting -/

theorem isPrefix_cutAt (mark : Char) (text : List Char) : (cutAt mark text).1 <+: text := by
  unfold cutAt
  split
  · exact List.prefix_rfl
  · exact List.takeWhile_prefix _

theorem splitScheme_eq_none {text : List Char} (h : ':' ∉ text) : splitScheme text = none := by
  unfold splitScheme
  split
  · split
    · rename_i rest hrest
      exact absurd ((List.dropWhile_suffix isSchemeChar).subset (hrest ▸ List.mem_cons_self)) h
    · rfl
  · rfl

/-! ## Text that names no host -/

/-- The control characters of Unicode. -/
def isControl (c : Char) : Bool := c.toNat < 0x20 || (0x7F ≤ c.toNat && c.toNat < 0xA0)

/-- A link that gives, without the blanks around it, neither a scheme nor a host. -/
structure IsRelative (link : List Char) : Prop where
  colon : ':' ∉ trim link
  backslash : '\\' ∉ trim link
  controls : ∀ c ∈ trim link, isControl c = false
  slashes : ¬ ['/', '/'] <+: trim link

/-- Text that leads from a place of the web to one on the same host. -/
structure StaysAtHost (text : List Char) : Prop where
  signs : ∀ c ∈ text, c ≠ ':' ∧ c ≠ '\\' ∧ 0x20 ≤ c.toNat
  first : ∀ c, text.head? = some c → 0x20 < c.toNat
  slashes : ¬ ['/', '/'] <+: text

namespace StaysAtHost

variable {text : List Char}

/-- So does all that it begins with. -/
theorem of_isPrefix (h : StaysAtHost text) {front : List Char} (hfront : front <+: text) :
    StaysAtHost front where
  signs c hc := h.signs c (hfront.subset hc)
  first c hc := by
    obtain ⟨more, rfl⟩ := hfront
    exact h.first c (by rw [List.head?_append, hc, Option.some_or])
  slashes htwo := h.slashes (htwo.trans hfront)

theorem dropTrailing (h : StaysAtHost text) (p : Char → Bool) :
    StaysAtHost (dropTrailing p text) := h.of_isPrefix (List.rdropWhile_prefix p text)

/-- Lower case brings up none of the signs. -/
theorem lowercase (h : StaysAtHost text) : StaysAtHost (lowercase text) where
  signs d hd := by
    obtain ⟨c, hc, hstands⟩ := exists_of_mem_lowercase hd
    obtain ⟨hcolon, hbackslash, hcode⟩ := h.signs c hc
    refine ⟨?_, ?_, ?_⟩
    · rintro rfl
      exact hcolon (hstands.eq (by decide) (by decide)).symm
    · rintro rfl
      exact hbackslash (hstands.eq (by decide) (by decide)).symm
    · exact hstands.le_toNat (by decide) hcode
  first d hd := by
    cases text with
    | nil => cases hd
    | cons c rest =>
      obtain ⟨e, more, hlower, hstands⟩ := exists_lowercase_cons c rest
      rw [hlower] at hd
      cases hd
      exact hstands.le_toNat (by decide) (h.first c rfl)
  slashes := by
    rintro ⟨more, hmore⟩
    obtain ⟨behind, rfl, hbehind⟩ := exists_of_lowercase_eq_slash hmore.symm
    obtain ⟨rest, rfl, -⟩ := exists_of_lowercase_eq_slash hbehind.symm
    exact h.slashes ⟨rest, rfl⟩

/-- Of such a text only the end is not read. -/
theorem isPrefix_clean (h : StaysAtHost text) : clean text <+: text := by
  have hhead : text.dropWhile (fun c => decide (c.toNat ≤ 0x20)) = text :=
    dropWhile_of_head fun c hc => by simpa using h.first c hc
  have hfront := List.rdropWhile_prefix (fun c : Char => decide (c.toNat ≤ 0x20)) text
  unfold clean strip
  rw [hhead, List.filter_eq_self.mpr]
  · exact hfront
  · intro c hc
    have hcode := (h.signs c (hfront.subset hc)).2.2
    have hne : ∀ d : Char, d.toNat < 0x20 → c ≠ d := by
      rintro d hd rfl
      omega
    simp [hne '\t' (by decide), hne '\n' (by decide), hne '\r' (by decide)]

/-- It is read as a reference without a scheme and with a body like it. -/
theorem ofText (h : StaysAtHost text) :
    (Reference.ofText text).scheme = none ∧ StaysAtHost (Reference.ofText text).body := by
  have hclean := h.of_isPrefix h.isPrefix_clean
  have hsplit : splitScheme (clean text) = none :=
    splitScheme_eq_none fun hcolon => (hclean.signs ':' hcolon).1 rfl
  unfold Reference.ofText
  simp only [hsplit]
  exact ⟨rfl, hclean.of_isPrefix ((isPrefix_cutAt '?' _).trans (isPrefix_cutAt '#' _))⟩

theorem length_takeWhile_isSlash (h : StaysAtHost text) :
    (text.takeWhile (isSlash .special)).length < 2 := by
  have hfront := h.of_isPrefix (List.takeWhile_prefix (isSlash .special))
  have hslash : ∀ c ∈ text.takeWhile (isSlash .special), c = '/' := by
    intro c hc
    have hsign := List.mem_takeWhile_imp hc
    simpa [isSlash, (hfront.signs c hc).2.1] using hsign
  generalize text.takeWhile (isSlash .special) = front at hfront hslash
  rcases front with _ | ⟨c, _ | ⟨d, rest⟩⟩
  · decide
  · exact Nat.one_lt_two
  · obtain rfl := hslash c (by simp)
    obtain rfl := hslash d (by simp)
    exact absurd ⟨rest, rfl⟩ hfront.slashes

/-- A reference with such a body keeps the host of the URL it is read against. -/
theorem host_of_relative? {base url : Url} {r : Reference} (h : StaysAtHost r.body)
    (hurl : relative? base .special r = some url) : url.host = base.host := by
  have htwo : ['/', '/'].isPrefixOf r.body = false := by
    rw [← Bool.not_eq_true, List.isPrefixOf_iff_prefix]
    exact h.slashes
  unfold relative? at hurl
  split at hurl
  · split at hurl <;> cases hurl
    rfl
  · simp only [htwo, if_neg (Nat.not_le.mpr h.length_takeWhile_isSlash), ge_iff_le,
      Bool.false_eq_true, if_false] at hurl
    repeat' split at hurl
    all_goals (cases hurl; rfl)

theorem host_of_parse? (h : StaysAtHost text) {base url : Url} (hweb : base.isWeb)
    (hurl : parse? (some base) text = some url) : url.host = base.host := by
  obtain ⟨hscheme, hbody⟩ := h.ofText
  unfold parse? resolve? at hurl
  simp only [hscheme, ofScheme_of_isWeb hweb] at hurl
  exact hbody.host_of_relative? hurl

end StaysAtHost

theorem IsRelative.staysAtHost_trim {link : List Char} (h : IsRelative link) :
    StaysAtHost (trim link) where
  signs c hc := by
    have hcontrol := h.controls c hc
    simp only [isControl, Bool.or_eq_false_iff, decide_eq_false_iff_not, not_lt] at hcontrol
    refine ⟨?_, ?_, hcontrol.1⟩
    · rintro rfl
      exact h.colon hc
    · rintro rfl
      exact h.backslash hc
  first c hc := by
    have hfront : trim link <+: link.dropWhile isBlank := List.rdropWhile_prefix isBlank _
    obtain ⟨more, hmore⟩ := hfront
    have hblank := List.head?_dropWhile_not isBlank link
    rw [← hmore, List.head?_append, hc, Option.some_or] at hblank
    have hcontrol := h.controls c (List.mem_of_head? hc)
    simp [isControl, isBlank] at hblank hcontrol
    omega
  slashes := h.slashes

/-- However a relative link is cleaned, it stays relative. -/
theorem IsRelative.staysAtHost {link : List Char} (h : IsRelative link) :
    StaysAtHost (cleanLink link) := h.staysAtHost_trim.lowercase.dropTrailing _

/-! ## Hosts of canonical links -/

theorem IsWritten.exists_hostText {url : Url} (h : url.IsWritten) :
    ∃ host, ∀ other : Url, other.host = url.host → other.hostText? = some host := by
  obtain ⟨host, hhost, hwritten⟩ := h.host
  have hne : host ≠ .empty := by
    rintro rfl
    exact hwritten.ne_nil rfl
  exact ⟨host.render, fun other hother => by simp [hostText?, hother, hhost, hne]⟩

/-- The host of a canonical link is that of any URL with the host of what the link is read as. -/
theorem hostOf?_eq {link : List Char} {place : Option (List Char)} {found text : List Char}
    {url base : Url} (hfound : canonicalLink? link place = some found)
    (hparse : parse? (place.bind place?) (cleanLink link) = some url)
    (hbase : place? text = some base) (hsame : url.host = base.host) :
    hostOf? found = hostOf? text ∧ (hostOf? text).isSome := by
  obtain ⟨read, hread, hwritten, hcanonical⟩ := exists_parse?_of_canonicalLink? hfound
  obtain rfl : read = url := Option.some.inj (hread.symm.trans hparse)
  obtain ⟨rest, horigin, hending⟩ := hwritten.exists_of_canonical? hcanonical
  obtain ⟨next, hnext, hhost⟩ := hending.read
  obtain ⟨host, htext⟩ := hwritten.exists_hostText
  have hplace : place? found = some next := by
    unfold place?
    rw [trim_eq_self fun c hc => (of_mem_canonicalLink? hfound c hc).1, horigin, hnext]
  unfold hostOf?
  rw [hplace, hbase, Option.bind_some, Option.bind_some, htext next hhost, htext base hsame.symm]
  exact ⟨rfl, rfl⟩

end LinkDigest.Url
