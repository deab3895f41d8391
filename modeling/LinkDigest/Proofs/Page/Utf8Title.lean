import LinkDigest.Proofs.Page.TitleScanner
import LinkDigest.Proofs.Text.Utf8

/-!
# Titles in UTF-8

A title is collected byte by byte and cut by its bytes, and then read as text. What is read
is the title that was written, or as many of its characters as fit: where the cut
falls within a character one U+FFFD stands for it.
-/

namespace LinkDigest.TitleScanner

open LinkDigest.Text

/-- The first tag of a document that begins with it ends where it does. -/
theorem tagEnd?_tag {limit : Nat} (hlimit : tag.length ≤ limit) (rest : List UInt8) :
    tagEnd? limit (tag ++ rest) = some tag.length := by
  refine tagEnd?_eq_some.mpr ⟨hlimit, by simp, ?_, fun earlier hearlier => ?_⟩
  · rw [List.take_left]
    decide
  · rw [List.take_append_of_le_length (Nat.le_of_lt hearlier)]
    revert earlier
    decide

/-- The bytes of a title in UTF-8 are those of its text, up to the most that there may be. -/
theorem titleBytes_tag {text : List Char} (hopen : '<' ∉ text) (rest : List UInt8) :
    titleBytes (tag ++ (Utf8.encode text ++ tagOpen :: rest)) tag.length =
      (Utf8.encode text).take maxTitleBytes := by
  have hbytes : ∀ byte ∈ Utf8.encode text, (byte != tagOpen) = true := by
    intro byte hbyte
    rw [bne_iff_ne]
    rintro rfl
    exact hopen (Utf8.mem_of_mem_encode hbyte (by decide))
  rw [titleBytes, List.drop_left, List.takeWhile_append_of_pos hbytes,
    List.takeWhile_cons_of_neg (by simp), List.append_nil]

theorem scanTitle?_tag {text : List Char} (hopen : '<' ∉ text) {limit : Nat}
    (hlimit : tag.length ≤ limit) (rest : List UInt8) :
    scanTitle? (tag ++ (Utf8.encode text ++ tagOpen :: rest)) limit =
      decodeTitle? .utf8 .empty ((Utf8.encode text).take maxTitleBytes) := by
  rw [scanTitle?, (seeks_feed_new _ _ _ _).finish?_eq_title?,
    title?_eq_decodeTitle? (tagEnd?_tag hlimit _), titleBytes_tag hopen]

end TitleScanner

open LinkDigest.Text TitleScanner

/-- A title without the blanks around it; none if there is nothing else. -/
def trimmed? (title : List Char) : Option (List Char) :=
  if trim title = [] then none else some (trim title)

theorem decodeTitle?_utf8 (indexes : Indexes) (bytes : List UInt8) :
    decodeTitle? .utf8 indexes bytes = trimmed? (Utf8.decode bytes) := by
  simp [decodeTitle?, trimmed?, Charset.decode, List.isEmpty_iff]

/-- The title of a document in UTF-8 is the text between its tags, without blanks around it. Of
a text of more than 1024 bytes it is the longest part that fits into these, and one U+FFFD if
they end within a character. What follows the title does not matter, nor does the limit if
the tag is within it. -/
theorem scanTitle?_utf8 {text : List Char} (hopen : '<' ∉ text) {limit : Nat} (hlimit : 7 ≤ limit)
    (rest : List UInt8) :
    let document := Utf8.encode ("<title>".toList ++ text ++ "</title>".toList) ++ rest
    ((Utf8.encode text).length ≤ 1024 → scanTitle? document limit = trimmed? text) ∧
    (1024 < (Utf8.encode text).length → ∃ kept, Utf8.IsLongestFit 1024 text kept ∧
      (Utf8.CutsCharacter 1024 text →
        scanTitle? document limit = trimmed? (kept ++ ['\ufffd'])) ∧
      (¬ Utf8.CutsCharacter 1024 text → scanTitle? document limit = trimmed? kept)) := by
  intro document
  have hdocument : document = tag ++ (Utf8.encode text ++ tagOpen ::
      (Utf8.encode "/title>".toList ++ rest)) := by
    simp only [document, Utf8.encode_append, List.append_assoc]
    rfl
  have hread : scanTitle? document limit =
      trimmed? (Utf8.decode ((Utf8.encode text).take 1024)) := by
    rw [hdocument, scanTitle?_tag hopen hlimit, decodeTitle?_utf8]
    rfl
  constructor
  · intro hfits
    rw [hread, List.take_of_length_le hfits, Utf8.decode_encode]
  · intro hroom
    obtain ⟨kept, hkept⟩ := Utf8.exists_isLongestFit 1024 text
    rw [hread, hkept.decode_take hroom]
    refine ⟨kept, hkept, fun hcut => ?_, fun hcut => ?_⟩
    · rw [if_pos (hkept.cutsCharacter_iff.mp hcut).2]
      rfl
    · rw [if_neg fun hless => hcut (hkept.cutsCharacter_iff.mpr ⟨hroom, hless⟩), List.append_nil]

/-- A character of two bytes behind 1023 of one byte. -/
theorem scanTitle?_utf8_cutLetter :
    '<' ∉ List.replicate 1023 'a' ++ ['é'] ∧ 7 ≤ 7 ∧
    scanTitle? (Utf8.encode ("<title>".toList ++ (List.replicate 1023 'a' ++ ['é']) ++
      "</title>".toList) ++ []) 7 = trimmed? (List.replicate 1023 'a' ++ ['\ufffd']) := by
  have hopen : '<' ∉ List.replicate 1023 'a' ++ ['é'] := by decide +kernel
  have hroom : 1024 < (Utf8.encode (List.replicate 1023 'a' ++ ['é'])).length := by
    decide +kernel
  obtain ⟨kept, hkept, hcut, -⟩ := (scanTitle?_utf8 hopen (Nat.le_refl 7) []).2 hroom
  have hown : Utf8.IsLongestFit 1024 (List.replicate 1023 'a' ++ ['é']) (List.replicate 1023 'a') :=
    .of_next (by decide +kernel) hroom
  obtain rfl := hkept.unique hown
  exact ⟨hopen, Nat.le_refl 7, hcut (hown.cutsCharacter_iff.mpr ⟨hroom, by decide +kernel⟩)⟩

end LinkDigest
