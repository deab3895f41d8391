import LinkDigest.Proofs.Text.Utf8
import LinkDigest.Proofs.Url.Address
import LinkDigest.Proofs.Url.Percent
import LinkDigest.Proofs.Url.Punycode
import LinkDigest.Url.Host
import LinkDigest.Url.Parse

/-!
# Reading hosts that were written

The host of the web that a text names is written in lower case and without any sign that
ends a host, and what is written is read as that host again.
-/

namespace LinkDigest

namespace Url

theorem Percent.decode_eq_encode {s : List Char} (h : ∀ c ∈ s, c ≠ '%') :
    Percent.decode s = Text.Utf8.encode s := by
  induction s with
  | nil => rfl
  | cons c rest ih =>
    have hrest := ih fun d hd => h d (List.mem_cons_of_mem _ hd)
    rw [Percent.decode, hrest]
    · rfl
    · rintro a b more hc -
      exact h c List.mem_cons_self hc

/-! ## Domain names -/

namespace Domain

open LinkDigest.Text

/-- Whether a character stays as it is when a name is mapped. -/
def IsSmall (c : Char) : Prop := c.toNat < 0x80 ∧ c.toLower = c

instance : DecidablePred IsSmall :=
  fun c => inferInstanceAs (Decidable (c.toNat < 0x80 ∧ c.toLower = c))

theorem map?_eq_self {s : List Char} (h : ∀ c ∈ s, IsSmall c) : map? s = some s := by
  have hchars : s.mapM mapChar? = some (s.map fun c => [c]) := by
    rw [mapM_eq_some_iff, List.forall₂_map_right_iff, List.forall₂_same]
    intro c hc
    unfold mapChar?
    rw [if_pos (h c hc).1, (h c hc).2]
  have hjoined : (s.map fun c => [c]).flatten = s := by simp [← List.flatMap_def]
  unfold map?
  rw [hchars]
  simp [hjoined, compose_of_small fun c hc => (h c hc).1]

/-- Of ASCII just the small letters and the signs stay as they are. -/
theorem isMapped_iff {c : Char} (h : c.toNat < 0x80) : isMapped c ↔ IsSmall c := by
  unfold isMapped mapChar?
  rw [if_pos h]
  simp [IsSmall, h]

theorem isSmall_of_isDigit {c : Char} (h : c.isDigit) : IsSmall c := by
  have hascii : c.toNat < 0x80 := by
    simp only [Char.isDigit, Bool.and_eq_true, decide_eq_true_eq] at h
    have hle : c.toNat ≤ 57 := h.2
    omega
  exact ⟨hascii, forall_ascii (P := fun c => c.isDigit → c.toLower = c) (by decide) hascii h⟩

theorem isSmall_digitChar : ∀ d < 36, IsSmall (Punycode.digitChar d) ∧
    Punycode.digitChar d ≠ '.' := by
  decide

/-! ## Labels -/

variable {label read : List Char}

theorem isMapped_of_mem (h : isValidLabel label) {c : Char} (hc : c ∈ label) : isMapped c := by
  simp only [isValidLabel, Bool.and_eq_true, List.all_eq_true] at h
  exact h.1.1.1.1 c hc

theorem isExtended_eq_false_iff : isExtended label = false ↔ ∀ c ∈ label, c.toNat < 0x80 := by
  simp [isExtended]

/-- A label in ASCII is valid as it is, if it is small and not marked. -/
theorem isValidLabel_of_isSmall (h : ∀ c ∈ label, IsSmall c) (hmarked : isMarked label = false) :
    isValidLabel label := by
  have hascii := fun c hc => (h c hc).1
  have hmapped : label.all isMapped := List.all_eq_true.mpr fun c hc =>
    (isMapped_iff (hascii c hc)).mpr (h c hc)
  have hfirst : label.head?.any isMark = false := by
    cases label with
    | nil => rfl
    | cons c rest =>
      have hlow : ¬ 0x300 ≤ c.toNat := Nat.not_le.mpr
        (Nat.lt_trans (hascii c List.mem_cons_self) (by decide))
      simp [isMark, hlow]
  unfold isValidLabel
  rw [hmapped, compose_of_small hascii, hmarked, hfirst, Joiner.allFit_of_small hascii]
  simp

/-- What is read is valid, and it is written as the label it was read from, unless that is a
label beyond ASCII and has been read as it is. -/
theorem readLabel?_cases (h : readLabel? label = some read) :
    isValidLabel read ∧ (writeLabel read = label ∨ isExtended label ∧ read = label) := by
  unfold readLabel? at h
  split at h
  · rename_i written
    simp only [Option.bind_eq_bind, Option.bind_eq_some_iff, Option.ite_none_right_eq_some,
      Option.some.injEq] at h
    obtain ⟨decoded, -, ⟨hextended, hvalid, hwritten⟩, rfl⟩ := h
    refine ⟨hvalid, .inl ?_⟩
    rw [writeLabel, if_pos hextended, hwritten]
    simp
  · rw [Option.ite_none_right_eq_some, Option.some.injEq] at h
    obtain ⟨hvalid, rfl⟩ := h
    refine ⟨hvalid, ?_⟩
    unfold writeLabel
    cases hextended : isExtended label with
    | true => exact .inr ⟨rfl, rfl⟩
    | false => exact .inl rfl

/-- The written form of a label is read as that label. -/
theorem readLabel?_writeLabel (h : readLabel? label = some read) :
    readLabel? (writeLabel read) = some read := by
  obtain ⟨hvalid, hsame | ⟨hextended, rfl⟩⟩ := readLabel?_cases h
  · rw [hsame]
    exact h
  · have hmark : writeLabel read = 'x' :: 'n' :: '-' :: '-' :: Punycode.encode read := by
      simp [writeLabel, hextended]
    rw [hmark]
    simp [readLabel?, Punycode.decode?_encode, hextended, hvalid]

/-- What is valid is written small, with dots only where it has them itself. -/
theorem of_mem_writeLabel (hvalid : isValidLabel read) {c : Char} (hc : c ∈ writeLabel read) :
    IsSmall c ∧ (c = '.' → c ∈ read) := by
  have hsmall : ∀ d ∈ read, d.toNat < 0x80 → IsSmall d := fun d hd hascii =>
    (isMapped_iff hascii).mp (isMapped_of_mem hvalid hd)
  unfold writeLabel at hc
  split at hc
  · rcases List.mem_append.mp hc with hmark | hc
    · have hmarks : "xn--".toList.all fun c => IsSmall c ∧ c ≠ '.' := by decide
      have hgood := of_decide_eq_true (List.all_eq_true.mp hmarks c hmark)
      exact ⟨hgood.1, fun hdot => absurd hdot hgood.2⟩
    rcases Punycode.of_mem_encode hc with ⟨hmem, hascii⟩ | rfl | ⟨d, hd, rfl⟩
    · exact ⟨hsmall c hmem hascii, fun _ => hmem⟩
    · exact ⟨by decide, fun hdot => absurd hdot (by decide)⟩
    · exact ⟨(isSmall_digitChar d hd).1, fun hdot => absurd hdot (isSmall_digitChar d hd).2⟩
  · rename_i hplain
    exact ⟨hsmall c hc (isExtended_eq_false_iff.mp (by simpa using hplain) c hc), fun _ => hc⟩

/-- A label without dots is written without dots. -/
theorem dot_not_mem_writeLabel (h : readLabel? label = some read) (hdot : '.' ∉ label) :
    '.' ∉ writeLabel read := by
  obtain ⟨hvalid, hsame | ⟨-, rfl⟩⟩ := readLabel?_cases h
  · rw [hsame]
    exact hdot
  · exact fun hmem => hdot ((of_mem_writeLabel hvalid hmem).2 rfl)

theorem areSteady_of_ascii {labels : List (List Char)}
    (h : ∀ label ∈ labels, ∀ c ∈ label, c.toNat < 0x80) : areSteady labels := by
  unfold areSteady
  rw [decide_eq_true_iff]
  intro hturns
  obtain ⟨label, hlabel, hturns⟩ := List.any_eq_true.mp hturns
  obtain ⟨c, hc, hturns⟩ := List.any_eq_true.mp hturns
  have hlow : ¬ 0x590 ≤ c.toNat := Nat.not_le.mpr (Nat.lt_trans (h label hlabel c hc) (by decide))
  simp [Direction.turns, hlow] at hturns

/-! ## Names -/

theorem toAscii?_eq_some_iff {name ascii : List Char} :
    toAscii? name = some ascii ↔ ∃ mapped labels, map? name = some mapped ∧
      (fields (· == '.') mapped).mapM readLabel? = some labels ∧ areSteady labels ∧
        ['.'].intercalate (labels.map writeLabel) = ascii ∧ ascii ≠ [] ∧
          ∀ c ∈ ascii, isForbidden c = false := by
  unfold toAscii?
  simp only [Option.bind_eq_bind, Option.bind_eq_some_iff, Option.ite_none_left_eq_some,
    Option.some.injEq, not_or, List.isEmpty_iff, List.any_eq_true, not_exists, not_and,
    Bool.not_eq_true, Bool.not_eq_true', Bool.not_eq_false]
  constructor
  · rintro ⟨mapped, hmap, labels, hlabels, ⟨hsteady, hgood⟩, rfl⟩
    exact ⟨mapped, labels, hmap, hlabels, hsteady, rfl, hgood⟩
  · rintro ⟨mapped, labels, hmap, hlabels, hsteady, rfl, hgood⟩
    exact ⟨mapped, hmap, labels, hlabels, ⟨hsteady, hgood⟩, rfl⟩

/-- The ASCII form of a name is its own ASCII form. -/
theorem toAscii?_of_eq_some {name ascii : List Char} (h : toAscii? name = some ascii) :
    toAscii? ascii = some ascii ∧ ∀ c ∈ ascii, IsSmall c ∧ isForbidden c = false := by
  obtain ⟨mapped, labels, -, hlabels, hsteady, hjoined, hne, hforbidden⟩ :=
    toAscii?_eq_some_iff.mp h
  have hread : ∀ label ∈ labels, readLabel? (writeLabel label) = some label ∧
      ∀ c ∈ writeLabel label, IsSmall c ∧ c ≠ '.' := by
    intro label hlabel
    obtain ⟨field, hfield, hread⟩ := exists_of_mem_mapM hlabels hlabel
    have hdot : '.' ∉ field := fun hmem => by
      simpa using not_mem_fields _ mapped field hfield '.' hmem
    refine ⟨readLabel?_writeLabel hread, fun c hc => ⟨?_, ?_⟩⟩
    · exact (of_mem_writeLabel (readLabel?_cases hread).1 hc).1
    · exact fun heq => dot_not_mem_writeLabel hread hdot (heq ▸ hc)
  have hsmall : ∀ c ∈ ascii, IsSmall c := by
    intro c hc
    rw [← hjoined] at hc
    rcases of_mem_intercalate hc with rfl | ⟨written, hwritten, hc⟩
    · decide
    · obtain ⟨label, hlabel, rfl⟩ := List.mem_map.mp hwritten
      exact ((hread label hlabel).2 c hc).1
  have hfields : fields (· == '.') ascii = labels.map writeLabel := by
    rw [← hjoined]
    refine fields_intercalate (by decide) ?_ (List.forall_mem_map.mpr fun label hlabel c hc => ?_)
    · intro hnil
      rw [hnil] at hjoined
      exact hne hjoined.symm
    · simpa using ((hread label hlabel).2 c hc).2
  have hself : (labels.map writeLabel).mapM readLabel? = some labels := by
    rw [mapM_eq_some_iff, List.forall₂_map_left_iff, List.forall₂_same]
    exact fun label hlabel => (hread label hlabel).1
  exact ⟨toAscii?_eq_some_iff.mpr ⟨ascii, labels, map?_eq_self hsmall, by rw [hfields, hself],
    hsteady, hjoined, hne, hforbidden⟩, fun c hc => ⟨hsmall c hc, hforbidden c hc⟩⟩

/-- Figures are read and written as they are. -/
theorem readLabel?_of_isDigit {label : List Char} (h : ∀ c ∈ label, c.isDigit) :
    readLabel? label = some label ∧ writeLabel label = label := by
  have hsmall := fun c hc => isSmall_of_isDigit (h c hc)
  have hmarked : isMarked label = false := by
    -- The mark of labels in Punycode begins with a letter.
    cases label with
    | nil => rfl
    | cons c rest =>
      have hc := h c List.mem_cons_self
      have hx : ('x' == c) = false := by
        rw [beq_eq_false_iff_ne]
        rintro rfl
        cases hc
      simp [isMarked, List.isPrefixOf, hx]
  have hplain : isExtended label = false := isExtended_eq_false_iff.mpr fun c hc => (hsmall c hc).1
  constructor
  · unfold readLabel?
    split
    · cases hmarked
    · rw [if_pos (isValidLabel_of_isSmall hsmall hmarked)]
  · rw [writeLabel, hplain]
    rfl

end Domain

/-- Visible characters that are neither slashes nor the mark of a query or a fragment. -/
structure IsFree (c : Char) : Prop where
  visible : IsVisible c
  slash : c ≠ '/'
  backslash : c ≠ '\\'
  query : c ≠ '?'
  fragment : c ≠ '#'

instance : DecidablePred IsFree := fun c =>
  decidable_of_iff (IsVisible c ∧ c ≠ '/' ∧ c ≠ '\\' ∧ c ≠ '?' ∧ c ≠ '#')
    ⟨fun ⟨hvisible, hslash, hbackslash, hquery, hfragment⟩ =>
      ⟨hvisible, hslash, hbackslash, hquery, hfragment⟩,
    fun h => ⟨h.visible, h.slash, h.backslash, h.query, h.fragment⟩⟩

namespace Host

/-! ## Ports behind hosts -/

theorem splitPort_outside {text : List Char} (h : ∀ c ∈ text, c ≠ ':' ∧ c ≠ '[')
    (rest : List Char) :
    splitPort false (text ++ rest) =
      (text ++ (splitPort false rest).1, (splitPort false rest).2) := by
  induction text with
  | nil => rfl
  | cons c more ih =>
    obtain ⟨hcolon, hopen⟩ := h c List.mem_cons_self
    have hmore := ih fun d hd => h d (List.mem_cons_of_mem _ hd)
    simp [splitPort, hcolon, hopen, hmore]

theorem splitPort_inside {text : List Char} (h : ∀ c ∈ text, c ≠ '[' ∧ c ≠ ']')
    (rest : List Char) :
    splitPort true (text ++ rest) = (text ++ (splitPort true rest).1, (splitPort true rest).2) := by
  induction text with
  | nil => rfl
  | cons c more ih =>
    obtain ⟨hopen, hclose⟩ := h c List.mem_cons_self
    have hmore := ih fun d hd => h d (List.mem_cons_of_mem _ hd)
    simp [splitPort, hopen, hclose, hmore]

/-- What follows a host: nothing, or a colon. -/
theorem splitPort_rest {rest : List Char} (h : ∀ c, rest.head? = some c → c = ':') :
    splitPort false rest = ([], rest) := by
  cases rest with
  | nil => rfl
  | cons c more =>
    rw [h c rfl]
    rfl

/-! ## Hosts -/

/-- A character as hosts are written with: no capital, and none that ends a host. -/
structure IsHostChar (c : Char) : Prop extends IsFree c where
  small : c.toLower = c
  sign : c ≠ '@'

instance : DecidablePred IsHostChar := fun c =>
  decidable_of_iff (IsFree c ∧ c.toLower = c ∧ c ≠ '@')
    ⟨fun ⟨hfree, hsmall, hsign⟩ => ⟨hfree, hsmall, hsign⟩, fun h => ⟨h.toIsFree, h.small, h.sign⟩⟩

/-- A host of the web as it is written: in lower case, without signs that end a host, and
read as that host again. -/
structure Written (host : Host) : Prop where
  special? : special? host.render = some host
  ne_nil : host.render ≠ []
  chars : ∀ c ∈ host.render, IsHostChar c
  splitPort : ∀ rest : List Char, (∀ c, rest.head? = some c → c = ':') →
    splitPort false (host.render ++ rest) = (host.render, rest)

theorem special?_of_toAscii? {text : List Char} (h : Domain.toAscii? text = some text) :
    special? text = if Ipv4.endsInNumber text then (Ipv4.parse? text).map Host.ipv4
      else some (.name text) := by
  have hsmall := (Domain.toAscii?_of_eq_some h).2
  have hdecode : Text.Utf8.decode? (Percent.decode text) = some text := by
    rw [Percent.decode_eq_encode, Text.Utf8.decode?_encode]
    rintro c hc rfl
    exact absurd (hsmall _ hc).2 (by decide)
  unfold Host.special?
  split
  · have hopen := (hsmall '[' (by simp)).2
    cases hopen
  · simp [hdecode, h]

/-- What a domain name must not have ends hosts or cannot be seen. -/
theorem of_not_isForbidden {c : Char} (hsmall : Domain.IsSmall c)
    (h : Domain.isForbidden c = false) : IsHostChar c ∧ c ≠ ':' ∧ c ≠ '[' := by
  obtain ⟨hfree, hsign, hport⟩ := forall_ascii (P := fun c => Domain.isForbidden c = false →
    IsFree c ∧ c ≠ '@' ∧ c ≠ ':' ∧ c ≠ '[') (by decide) hsmall.1 h
  exact ⟨⟨hfree, hsmall.2, hsign⟩, hport⟩

theorem written_of_toAscii? {host : Host} (h : Domain.toAscii? host.render = some host.render)
    (hspecial : special? host.render = some host) : host.Written := by
  obtain ⟨-, -, -, -, -, -, hne, -⟩ := Domain.toAscii?_eq_some_iff.mp h
  have hchars := fun c hc =>
    have hsmall := (Domain.toAscii?_of_eq_some h).2 c hc
    of_not_isForbidden hsmall.1 hsmall.2
  refine ⟨hspecial, hne, fun c hc => (hchars c hc).1, ?_⟩
  intro rest hrest
  rw [splitPort_outside fun c hc => (hchars c hc).2, splitPort_rest hrest, List.append_nil]

theorem written_ipv4 {address : Nat} (h : address < 2 ^ 32) : (ipv4 address).Written := by
  have hchars : ∀ c ∈ Ipv4.render address, Domain.IsSmall c ∧ Domain.isForbidden c = false := by
    intro c hc
    rcases Ipv4.of_mem_render hc with rfl | hdigit
    · exact ⟨by decide, by decide⟩
    · have hsmall := Domain.isSmall_of_isDigit hdigit
      exact ⟨hsmall, forall_ascii (P := fun c => c.isDigit → Domain.isForbidden c = false)
        (by decide) hsmall.1 hdigit⟩
  have hfigures : ∀ label ∈ (Ipv4.bytes address).map Ipv4.decimal, ∀ c ∈ label, c.isDigit :=
    List.forall_mem_map.mpr fun _ _ _ hc => Ipv4.isDigit_of_mem_decimal hc
  have hlabels : ((Ipv4.bytes address).map Ipv4.decimal).mapM Domain.readLabel? =
      some ((Ipv4.bytes address).map Ipv4.decimal) := by
    rw [mapM_eq_some_iff, List.forall₂_same]
    exact fun label hlabel => (Domain.readLabel?_of_isDigit (hfigures label hlabel)).1
  have hwritten : ((Ipv4.bytes address).map Ipv4.decimal).map Domain.writeLabel =
      (Ipv4.bytes address).map Ipv4.decimal :=
    (List.map_congr_left fun label hlabel =>
      (Domain.readLabel?_of_isDigit (hfigures label hlabel)).2).trans (List.map_id _)
  have hascii : Domain.toAscii? (Ipv4.render address) = some (Ipv4.render address) := by
    refine Domain.toAscii?_eq_some_iff.mpr ⟨_, _, Domain.map?_eq_self fun c hc => (hchars c hc).1,
      ?_, Domain.areSteady_of_ascii fun label hlabel c hc =>
        (Domain.isSmall_of_isDigit (hfigures label hlabel c hc)).1, ?_, ?_,
      fun c hc => (hchars c hc).2⟩
    · rw [Ipv4.fields_render, hlabels]
    · rw [hwritten, Ipv4.render_eq]
    · simp [Ipv4.render, Ipv4.decimal_ne_nil]
  refine written_of_toAscii? hascii ?_
  show special? (Ipv4.render address) = _
  rw [special?_of_toAscii? hascii, if_pos (Ipv4.endsInNumber_render address), Ipv4.parse?_render h]
  rfl

theorem written_ipv6 {pieces : List Nat} (h : Ipv6.IsAddress pieces) : (ipv6 pieces).Written := by
  have hdigits : ∀ v < 16,
      IsHostChar (Hex.digit v) ∧ Hex.digit v ≠ '[' ∧ Hex.digit v ≠ ']' := by decide
  have hchars : ∀ c ∈ Ipv6.render pieces, IsHostChar c ∧ c ≠ '[' ∧ c ≠ ']' := by
    intro c hc
    rcases Ipv6.of_mem_render hc with rfl | ⟨v, hv, rfl⟩
    · decide
    · exact hdigits v hv
  have hrender : (ipv6 pieces).render = '[' :: (Ipv6.render pieces ++ [']']) := rfl
  have hall : ∀ c ∈ (ipv6 pieces).render, IsHostChar c := by
    intro c hc
    rw [hrender] at hc
    rcases List.mem_cons.mp hc with rfl | hc
    · decide
    rcases List.mem_append.mp hc with hc | hc
    · exact (hchars c hc).1
    · rw [List.mem_singleton.mp hc]
      decide
  refine ⟨?_, by simp [hrender], hall, ?_⟩
  · rw [hrender]
    show bracketed? (Ipv6.render pieces ++ [']']) = _
    unfold bracketed?
    rw [if_pos (by simp), List.dropLast_concat, Ipv6.parse?_render h]
    rfl
  · intro rest hrest
    rw [hrender, List.cons_append, List.append_assoc, List.singleton_append]
    have hinside := splitPort_inside (fun c hc => (hchars c hc).2) (']' :: rest)
    have hclosed : splitPort true (']' :: rest) = (']' :: (splitPort false rest).1,
        (splitPort false rest).2) := rfl
    have hopened : splitPort false ('[' :: (Ipv6.render pieces ++ ']' :: rest)) =
        ('[' :: (splitPort true (Ipv6.render pieces ++ ']' :: rest)).1,
          (splitPort true (Ipv6.render pieces ++ ']' :: rest)).2) := rfl
    rw [hopened, hinside, hclosed, splitPort_rest hrest]

/-- A host of the web that was read. -/
theorem written_of_special? {text : List Char} {host : Host} (h : special? text = some host) :
    host.Written := by
  unfold Host.special? at h
  split at h
  · unfold bracketed? at h
    split at h
    · obtain ⟨pieces, hpieces, rfl⟩ := Option.map_eq_some_iff.mp h
      exact written_ipv6 (Ipv6.isAddress_of_parse? hpieces)
    · cases h
  · simp only [Option.bind_eq_bind, Option.bind_eq_some_iff] at h
    obtain ⟨name, -, ascii, hascii, h⟩ := h
    split at h
    · obtain ⟨address, haddress, rfl⟩ := Option.map_eq_some_iff.mp h
      exact written_ipv4 (Ipv4.parse?_lt haddress)
    · rename_i hname
      cases h
      have hself := (Domain.toAscii?_of_eq_some hascii).1
      refine written_of_toAscii? hself ?_
      show special? ascii = _
      rw [special?_of_toAscii? hself, if_neg hname]

end Host

end Url

end LinkDigest
