import LinkDigest.Proofs.Url.Absolute
import LinkDigest.Proofs.Url.Shape

/-!
# Escaped and raw spellings

A text beyond ASCII can stand in a link as it is or in escapes. A link is put into lower case
before it is read: of the text as it is, that makes the capitals small, and of escapes only
the digits. So the two spellings are one link exactly for the texts that are in lower case.
-/

namespace LinkDigest

/-! ## Digits -/

namespace Hex

theorem toNat_lt_of_value? {c : Char} {value : Nat} (h : value? c = some value) :
    c.toNat < 0x80 := by
  refine Nat.lt_of_not_le fun hc => ?_
  have hgreater : ∀ d : Char, d.toNat < 0x80 → ¬ c ≤ d := by
    intro d hd hle
    have hcodes : c.toNat ≤ d.toNat := Char.le_def.mp hle
    omega
  unfold value? at h
  rw [if_neg fun hle => hgreater '9' (by decide) hle.2,
    if_neg fun hle => hgreater 'f' (by decide) hle.2,
    if_neg fun hle => hgreater 'F' (by decide) hle.2] at h
  cases h

/-- A digit is its value in lower case, a small or a capital one. -/
theorem toLower_of_value? {c : Char} {value : Nat} (h : value? c = some value) :
    c.toLower = digit value ∧ value? c.toLower = some value ∧ c.isAlphanum :=
  forall_ascii (P := fun c => ∀ value ∈ value? c,
      c.toLower = digit value ∧ value? c.toLower = some value ∧ c.isAlphanum)
    (by decide) (toNat_lt_of_value? h) value h

end Hex

namespace Url

open LinkDigest.Text

namespace Percent

/-- Bytes in escapes, with digits in either letter case. -/
inductive Escapes : List UInt8 → List Char → Prop where
  | nil : Escapes [] []
  | cons {byte : UInt8} {bytes : List UInt8} {high low : Char} {text : List Char}
      (hhigh : Hex.value? high = some (byte.toNat / 16))
      (hlow : Hex.value? low = some (byte.toNat % 16)) (hrest : Escapes bytes text) :
      Escapes (byte :: bytes) ('%' :: high :: low :: text)

theorem escapes_flatMap (bytes : List UInt8) : Escapes bytes (bytes.flatMap escapeByte) := by
  induction bytes with
  | nil => exact .nil
  | cons byte rest ih =>
    have hbyte := byte.toNat_lt
    exact .cons (Hex.value?_upperDigit _ (by omega)) (Hex.value?_upperDigit _ (by omega)) ih

namespace Escapes

variable {bytes : List UInt8} {text other : List Char}

theorem isPlain (h : Escapes bytes text) : ∀ c ∈ text, IsPlain c := by
  induction h with
  | nil => simp
  | cons hhigh hlow hrest ih =>
    have hdigits := And.intro (Hex.toLower_of_value? hhigh).2.2 (Hex.toLower_of_value? hlow).2.2
    exact List.forall_mem_cons.mpr ⟨.inr (.inr rfl), List.forall_mem_cons.mpr
      ⟨.inl hdigits.1, List.forall_mem_cons.mpr ⟨.inl hdigits.2, ih⟩⟩⟩

/-- Escapes of the same bytes differ in the letter case of their digits only. -/
theorem asciiLowercase_eq (h : Escapes bytes text) (hother : Escapes bytes other) :
    asciiLowercase text = asciiLowercase other := by
  induction h generalizing other with
  | nil =>
    cases hother
    rfl
  | cons hhigh hlow hrest ih =>
    cases hother with
    | cons hhigh' hlow' hrest' =>
      have hsame := ih hrest'
      unfold asciiLowercase at hsame ⊢
      simp only [List.map_cons, hsame, (Hex.toLower_of_value? hhigh).1,
        (Hex.toLower_of_value? hlow).1, (Hex.toLower_of_value? hhigh').1,
        (Hex.toLower_of_value? hlow').1]

theorem asciiLowercase (h : Escapes bytes text) : Escapes bytes (asciiLowercase text) := by
  induction h with
  | nil => exact .nil
  | cons hhigh hlow hrest ih =>
    exact .cons (Hex.toLower_of_value? hhigh).2.1 (Hex.toLower_of_value? hlow).2.1 ih

theorem decode_append (h : Escapes bytes text) (rest : List Char) :
    decode (text ++ rest) = bytes ++ decode rest := by
  induction h with
  | nil => rfl
  | @cons byte bytes high low text hhigh hlow hrest ih =>
    have hbyte : UInt8.ofNat (byte.toNat / 16 * 16 + byte.toNat % 16) = byte := by
      rw [Nat.div_add_mod', UInt8.ofNat_toNat]
    simp only [List.cons_append, decode, hhigh, hlow, hbyte, ih]

/-- Escapes begin with no dot unless the bytes do. -/
theorem dotRest?_eq_none {byte : UInt8} (h : Escapes (byte :: bytes) text)
    (hbyte : byte.toNat ≠ 0x2E) : dotRest? text = none := by
  cases h with
  | @cons _ _ high low text hhigh hlow hrest =>
    have hdot : high = '2' → low ≠ 'e' ∧ low ≠ 'E' := by
      rintro rfl
      have hvalue : byte.toNat / 16 = 2 := (Option.some.inj hhigh).symm
      constructor
      all_goals
        rintro rfl
        have hunit : byte.toNat % 16 = 14 := (Option.some.inj hlow).symm
        omega
    unfold dotRest?
    split <;> simp_all

end Escapes

/-- Where all is escaped, the bytes of the text are written in escapes. -/
theorem encode_of_escaped {p : Char → Bool} {s : List Char} (h : ∀ c ∈ s, p c) :
    encode p s = (Utf8.encode s).flatMap escapeByte := by
  unfold Utf8.encode encode
  rw [List.flatMap_assoc]
  exact List.flatMap_congr fun c hc => if_pos (h c hc)

/-- Text without capitals and without signs of escapes is what its escapes in lower case give. -/
theorem decode_asciiLowercase_encode (p : Char → Bool) {s : List Char}
    (h : ∀ c ∈ s, c.toLower = c ∧ c ≠ '%') :
    decode (asciiLowercase (encode p s)) = Utf8.encode s := by
  induction s with
  | nil => rfl
  | cons c rest ih =>
    obtain ⟨hlower, hne⟩ := h c List.mem_cons_self
    have hrest := ih fun d hd => h d (List.mem_cons_of_mem _ hd)
    rw [encode_cons, Utf8.encode_cons, asciiLowercase_append, ← hrest]
    unfold encodeChar
    split
    · exact (escapes_flatMap _).asciiLowercase.decode_append _
    · show decode (c.toLower :: asciiLowercase (encode p rest)) = _
      rw [hlower, decode]
      rintro a b more hc -
      exact hne hc

theorem asciiLowercase_encode_inj (p : Char → Bool) {s t : List Char}
    (hs : ∀ c ∈ s, c.toLower = c ∧ c ≠ '%') (ht : ∀ c ∈ t, c.toLower = c ∧ c ≠ '%') :
    asciiLowercase (encode p s) = asciiLowercase (encode p t) ↔ s = t := by
  refine ⟨fun hsame => Utf8.encode_injective ?_, fun hsame => by rw [hsame]⟩
  rw [← decode_asciiLowercase_encode p hs, hsame, decode_asciiLowercase_encode p ht]

end Percent

/-! ## One segment behind an origin -/

/-- An origin as links begin with it: a scheme of the web in any case, and an authority. -/
def IsLinkOrigin (origin : List Char) : Prop :=
  ∃ scheme authority, origin = scheme ++ ':' :: '/' :: '/' :: authority ∧ IsWebScheme scheme ∧
    authority ≠ [] ∧ ∀ c ∈ authority, IsAuthorityChar c ∧ isBlank c = false

/-- A link that ends in no slash is put into lower case and nothing else. -/
theorem cleanLink_append {front part : List Char}
    (hfront : ∀ c ∈ front, isBlank c = false) (hne : part ≠ [])
    (hpart : ∀ c ∈ part, IsAuthorityChar c ∧ isBlank c = false) :
    cleanLink (front ++ '/' :: part) = lowercase front ++ '/' :: lowercase part := by
  have hblank : ∀ c ∈ front ++ '/' :: part, isBlank c = false :=
    List.forall_mem_append.mpr
      ⟨hfront, List.forall_mem_cons.mpr ⟨by decide, fun c hc => (hpart c hc).2⟩⟩
  unfold cleanLink trim
  rw [strip_eq_self hblank, isParting_slash.lowercase_append]
  refine dropSlashes_eq_self fun hslash => ?_
  rw [List.getLast?_append_of_ne_nil _ (List.cons_ne_nil _ _),
    List.getLast?_cons_of_ne_nil (lowercase_ne_nil hne)] at hslash
  have hchar := IsAuthorityChar.of_mem_lowercase (fun c hc => (hpart c hc).1)
    (List.mem_of_getLast? hslash)
  exact absurd hchar.slash (by decide)

/-- An origin is read in lower case. -/
theorem IsLinkOrigin.exists_isOrigin {origin : List Char} (h : IsLinkOrigin origin) :
    ∃ scheme authority, IsOrigin scheme authority ∧
      lowercase origin = scheme ++ ':' :: '/' :: '/' :: authority ∧
      cleanLink origin = lowercase origin ∧ ∀ c ∈ origin, isBlank c = false := by
  obtain ⟨scheme, authority, rfl, hscheme, hne, hchars⟩ := h
  have hlower := hscheme.lowercase_eq authority
  have hfront : ∀ c ∈ scheme ++ [':', '/'], isBlank c = false :=
    List.forall_mem_append.mpr ⟨fun c hc =>
      (hscheme.isPlain hc).of_ascii (P := fun c => isBlank c = false) (by decide),
      List.forall_iff_forall_mem.mp (by decide)⟩
  have hsplit : scheme ++ ':' :: '/' :: '/' :: authority =
      (scheme ++ [':', '/']) ++ '/' :: authority := by simp
  refine ⟨asciiLowercase scheme, lowercase authority, ⟨hscheme, lowercase_ne_nil hne, fun d =>
    .of_mem_lowercase fun c hc => (hchars c hc).1⟩, hlower, ?_, ?_⟩
  · rw [hsplit, cleanLink_append hfront hne hchars, isParting_slash.lowercase_append]
  · rw [hsplit]
    exact List.forall_mem_append.mpr
      ⟨hfront, List.forall_mem_cons.mpr ⟨by decide, fun c hc => (hchars c hc).2⟩⟩

/-- At the root a text without marks and dots gives a path of one segment. -/
theorem atRoot_segment (url : Url) {segment : List Char} (h : ∀ c ∈ segment, IsAuthorityChar c)
    (hdots : dotRest? segment = none) : url.atRoot segment = { url with
      path := .segments [Percent.encode Percent.pathSet segment]
      query := none
      fragment := none } := by
  have hclean : cleanBehind segment = segment := by
    unfold cleanBehind
    rw [dropTrailing_eq_self fun c hc =>
      decide_eq_false (Nat.not_le.mpr (h c (List.mem_of_getLast? hc)).visible),
      filter_visible fun c hc => (h c hc).visible]
  have hcut := ofRest_append (fun c hc => ⟨(h c hc).query, (h c hc).fragment⟩) none []
  rw [List.append_nil] at hcut
  have hpath : pathFrom .special [] segment = [Percent.encode Percent.pathSet segment] := by
    unfold pathFrom
    rw [fields_eq_singleton _ _ fun c hc => (h c hc).slash]
    simp [walk, isSingleDot_eq, isDoubleDot_eq, hdots]
  unfold atRoot
  rw [hclean, hcut]
  simp [withRest, Reference.ofRest, cutAt, hpath, escapeQuery, escapeFragment]

theorem IsWritten.canonical?_atRoot_segment {url : Url} (h : url.IsWritten)
    (hpath : url.path = .segments [[]]) (hquery : url.query = none)
    (hfragment : url.fragment = none) {segment : List Char} (hne : segment ≠ [])
    (hchars : ∀ c ∈ segment, IsAuthorityChar c) (hdots : dotRest? segment = none) :
    canonical? (url.atRoot segment) = (canonical? url).map
      (· ++ '/' :: asciiLowercase (Percent.encode Percent.pathSet segment)) := by
  have hsegment : IsSegment (Percent.encode Percent.pathSet segment) :=
    .encode (fun c hc => (hchars c hc).slash) (by simp [isSingleDot_eq, hdots])
      (by simp [isDoubleDot_eq, hdots])
  have hwritten : asciiLowercase (Percent.encode Percent.pathSet segment) ≠ [] := fun hnil =>
    hne (Percent.encode_eq_nil (List.map_eq_nil_iff.mp hnil))
  have hroot : IsWritten { url with
      path := .segments [Percent.encode Percent.pathSet segment]
      query := none, fragment := none } := { h with
    path := ⟨_, rfl, by simp, by simpa using hsegment⟩
    query := fun _ hnone => by cases hnone
    fragment := fun _ hnone => by cases hnone }
  have hkept : ([Percent.encode Percent.pathSet segment].map asciiLowercase).rdropWhile
      List.isEmpty = [asciiLowercase (Percent.encode Percent.pathSet segment)] := by
    simp [List.rdropWhile, hwritten]
  have hdropped : ([[]].map asciiLowercase).rdropWhile List.isEmpty = [] := rfl
  rw [atRoot_segment url hchars hdots, hroot.canonical?_of_path rfl rfl rfl, hkept,
    h.canonical?_of_path hpath hquery hfragment, hdropped, Option.map_some]
  show some (url.lowered.renderOrigin ++ _) = _
  simp [Path.renderSegments]

/-- The canonical spelling of a link with one segment is that of its origin, and the segment. -/
theorem canonicalLink?_append_segment {origin segment : List Char} (h : IsLinkOrigin origin)
    (hne : segment ≠ []) (hchars : ∀ c ∈ segment, IsAuthorityChar c ∧ isBlank c = false)
    (hdots : dotRest? (lowercase segment) = none) :
    canonicalLink? (origin ++ '/' :: segment) none = (canonicalLink? origin none).map
      (· ++ '/' :: asciiLowercase (Percent.encode Percent.pathSet (lowercase segment))) := by
  obtain ⟨scheme, authority, horigin, hlower, hclean, hblank⟩ := h.exists_isOrigin
  have hsegment : ∀ c ∈ lowercase segment, IsAuthorityChar c := fun c =>
    .of_mem_lowercase fun c hc => (hchars c hc).1
  unfold canonicalLink?
  simp only [cleanLink_append hblank hne hchars, hclean, hlower, Option.bind_none]
  rw [if_neg (by simp), if_neg (by simp), horigin.parse?_append]
  cases hurl : parse? none (scheme ++ ':' :: '/' :: '/' :: authority) with
  | none => rfl
  | some url =>
    obtain ⟨hwritten, hpath, hquery, hfragment⟩ := horigin.of_parse? hurl
    rw [Option.map_some, Option.bind_some, Option.bind_some,
      hwritten.canonical?_atRoot_segment hpath hquery hfragment (lowercase_ne_nil hne) hsegment
        hdots]

/-! ## Both spellings -/

/-- What texts beyond ASCII are in lower case: small letters, and all beyond ASCII. -/
def IsExtended (c : Char) : Prop := c.isLower ∨ 0x80 ≤ c.toNat

namespace IsExtended

variable {c : Char}

theorem toLower_eq (h : IsExtended c) : c.toLower = c := by
  rcases h with hsmall | hextended
  · exact Char.toLower_eq_of_not_isUpper (Char.not_isUpper_of_isLower hsmall)
  · rcases toLower_eq_or_isLower c with hsame | hsmall
    · exact hsame
    · rw [Char.isLower_toLower_eq_isAlpha] at hsmall
      have hascii : c.toNat < 0x80 := Percent.IsPlain.lt (.inl (by simp [Char.isAlphanum, hsmall]))
      omega

theorem not_sign (h : IsExtended c) {d : Char} (hascii : d.toNat < 0x80) (hd : d.isLower = false) :
    c ≠ d := by
  rintro rfl
  rcases h with hsmall | hextended
  · rw [hd] at hsmall
    cases hsmall
  · omega

theorem of_mem_lowercase {s : List Char} (h : ∀ c ∈ s, 0x80 ≤ c.toNat) {d : Char}
    (hd : d ∈ lowercase s) : IsExtended d := by
  obtain ⟨c, hc, rfl | hstands⟩ := exists_of_mem_lowercase hd
  · exact .inr (h _ hc)
  · exact hstands

theorem dotRest?_eq_none {s : List Char} (h : ∀ c ∈ s, IsExtended c) : dotRest? s = none := by
  cases s with
  | nil => rfl
  | cons c rest =>
    have hc := h c List.mem_cons_self
    have hdot := hc.not_sign (d := '.') (by decide) rfl
    have hsign := hc.not_sign (d := '%') (by decide) rfl
    unfold dotRest?
    split <;> simp_all

end IsExtended

/-- The bytes of a text beyond ASCII begin with that of no dot. -/
theorem exists_encode_eq_cons {text : List Char} (hne : text ≠ [])
    (htext : ∀ c ∈ text, 0x80 ≤ c.toNat) :
    ∃ byte bytes, Utf8.encode text = byte :: bytes ∧ byte.toNat ≠ 0x2E := by
  obtain ⟨c, rest, rfl⟩ := List.exists_cons_of_ne_nil hne
  obtain ⟨byte, bytes, hbytes, hdot⟩ := Percent.exists_utf8EncodeChar c
  refine ⟨byte, bytes ++ Utf8.encode rest, by simp [Utf8.encode, hbytes], fun hbyte => ?_⟩
  have hc := htext c List.mem_cons_self
  rw [hdot hbyte] at hc
  exact absurd hc (by decide)

/-- A segment in escapes is spelled as it is, with small digits. -/
theorem canonicalLink?_append_escaped {origin text escaped : List Char}
    (horigin : IsLinkOrigin origin) (hne : text ≠ []) (htext : ∀ c ∈ text, 0x80 ≤ c.toNat)
    (hescaped : Percent.Escapes (Utf8.encode text) escaped) :
    canonicalLink? (origin ++ '/' :: escaped) none =
      (canonicalLink? origin none).map (· ++ '/' :: asciiLowercase escaped) := by
  have hlower : lowercase escaped = asciiLowercase escaped :=
    lowercase_ascii _ fun c hc => (hescaped.isPlain c hc).lt
  have hself : Percent.encode Percent.pathSet (asciiLowercase escaped) = asciiLowercase escaped :=
    Percent.encode_eq_self fun c hc =>
      Percent.isEscaped_pathSet.plain c (hescaped.asciiLowercase.isPlain c hc)
  have hagain : asciiLowercase (asciiLowercase escaped) = asciiLowercase escaped :=
    asciiLowercase_eq_self (isLower_asciiLowercase escaped)
  have hchars : ∀ c ∈ escaped, IsAuthorityChar c ∧ isBlank c = false := fun c hc =>
    (hescaped.isPlain c hc).of_ascii (P := fun c => IsAuthorityChar c ∧ isBlank c = false)
      (by decide)
  obtain ⟨byte, bytes, hbytes, hbyte⟩ := exists_encode_eq_cons hne htext
  rw [hbytes] at hescaped
  have hdots : dotRest? (lowercase escaped) = none := by
    rw [hlower]
    exact hescaped.asciiLowercase.dotRest?_eq_none hbyte
  have hsome : escaped ≠ [] := by
    cases hescaped
    simp
  rw [canonicalLink?_append_segment horigin hsome hchars hdots, hlower, hself, hagain]

/-- A segment beyond ASCII is spelled as the escapes of its small letters. The spelling in
escapes is that of the same link just if the segment is in lower case, or if nothing can be
read behind that origin. -/
theorem canonicalLink_escaped {origin text escaped : List Char} (horigin : IsLinkOrigin origin)
    (hne : text ≠ []) (htext : ∀ c ∈ text, 0x80 ≤ c.toNat ∧ isBlank c = false)
    (hescaped : Percent.Escapes (Utf8.encode text) escaped) :
    canonicalLink? (origin ++ '/' :: escaped) none =
        (canonicalLink? origin none).map (· ++ '/' :: asciiLowercase escaped) ∧
      canonicalLink? (origin ++ '/' :: text) none = (canonicalLink? origin none).map
        (· ++ '/' :: asciiLowercase (Percent.encode Percent.pathSet (lowercase text))) ∧
      (canonicalLink? (origin ++ '/' :: text) none =
          canonicalLink? (origin ++ '/' :: escaped) none ↔
        lowercase text = text ∨ canonicalLink? origin none = none) := by
  have hbeyond := fun c hc => (htext c hc).1
  have hsmall : ∀ c ∈ lowercase text, IsExtended c := fun c => .of_mem_lowercase hbeyond
  have hcoded := canonicalLink?_append_escaped horigin hne hbeyond hescaped
  have hraw := canonicalLink?_append_segment horigin hne
    (fun c hc => ⟨.of_extended (htext c hc).1, (htext c hc).2⟩) (IsExtended.dotRest?_eq_none hsmall)
  refine ⟨hcoded, hraw, ?_⟩
  have hset : ∀ c ∈ text, Percent.pathSet c := fun c hc =>
    Percent.isEscaped_pathSet.hidden c (.inr (Nat.le_trans (by decide) (hbeyond c hc)))
  have hwritten : asciiLowercase escaped =
      asciiLowercase (Percent.encode Percent.pathSet text) := by
    rw [Percent.encode_of_escaped hset]
    exact hescaped.asciiLowercase_eq (Percent.escapes_flatMap _)
  have hkept : ∀ s : List Char, (∀ c ∈ s, IsExtended c) → ∀ c ∈ s, c.toLower = c ∧ c ≠ '%' :=
    fun s hs c hc => ⟨(hs c hc).toLower_eq, (hs c hc).not_sign (by decide) rfl⟩
  have hsame := Percent.asciiLowercase_encode_inj Percent.pathSet (hkept _ hsmall)
    (hkept text fun c hc => .inr (hbeyond c hc))
  rw [hcoded, hraw, hwritten]
  cases canonicalLink? origin none with
  | none => simp
  | some found => simpa using hsame

/-- A small letter, in escapes with digits of both cases. -/
theorem canonicalLink_escaped_smallLetter :
    IsLinkOrigin "http://x.test".toList ∧ Percent.Escapes (Utf8.encode ['ü']) "%C3%bC".toList ∧
      canonicalLink? ("http://x.test".toList ++ '/' :: "%C3%bC".toList) none =
        some "http://x.test/%c3%bc".toList ∧
      canonicalLink? ("http://x.test".toList ++ '/' :: ['ü']) none =
        canonicalLink? ("http://x.test".toList ++ '/' :: "%C3%bC".toList) none := by
  have horigin : IsLinkOrigin "http://x.test".toList :=
    ⟨"http".toList, "x.test".toList, rfl, .inl (by decide), by simp,
      List.forall_iff_forall_mem.mp (by decide)⟩
  have hescaped : Percent.Escapes (Utf8.encode ['ü']) "%C3%bC".toList :=
    .cons (by decide) (by decide) (.cons (by decide) (by decide) .nil)
  obtain ⟨hcoded, -, hsame⟩ := canonicalLink_escaped horigin (by simp)
    (List.forall_iff_forall_mem.mp (by decide)) hescaped
  exact ⟨horigin, hescaped, hcoded.trans (by decide +kernel), hsame.mpr (.inl (by decide))⟩

/-- The small letter is another one than the one that is escaped. -/
theorem canonicalLink_not_escaped :
    ¬ ∀ origin text escaped : List Char, IsLinkOrigin origin → text ≠ [] →
      (∀ c ∈ text, 0x80 ≤ c.toNat ∧ isBlank c = false) →
        Percent.Escapes (Utf8.encode text) escaped →
          canonicalLink? (origin ++ '/' :: text) none =
            canonicalLink? (origin ++ '/' :: escaped) none := by
  intro h
  have hsame := h "http://x.test".toList ['Ü'] "%C3%9C".toList
    ⟨"http".toList, "x.test".toList, rfl, .inl (by decide), by simp,
      List.forall_iff_forall_mem.mp (by decide)⟩ (by simp)
    (List.forall_iff_forall_mem.mp (by decide))
    (.cons (by decide) (by decide) (.cons (by decide) (by decide) .nil))
  exact absurd hsame (by decide +kernel)

end Url

end LinkDigest
