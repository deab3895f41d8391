import LinkDigest.Url.Punycode
import Mathlib.Tactic.Set
import Mathlib.Tactic.Ring

/-!
# Reading Punycode that was written

What is written for a label is read as that label. Writer and reader go in step: when the
writer looks at a character of the label for the code point it is at, the reader has all
characters with smaller code points, and those of them before that place that have this
one. The distance of the writer is how far the reader still is from there.
-/

namespace LinkDigest.Url.Punycode

/-! ## Digits -/

theorem digitValue?_digitChar : ∀ d < 36, digitValue? (digitChar d) = some d := by decide

/-- A distance is written in digits. -/
theorem exists_of_mem_number {bias k q : Nat} {c : Char} (h : c ∈ number bias k q) :
    ∃ d < 36, c = digitChar d := by
  fun_induction number bias k q with
  | case1 k q t hlt =>
    exact ⟨q, Nat.lt_trans hlt (threshold_lt k bias), List.mem_singleton.mp h⟩
  | case2 k q t hlt ih =>
    rcases List.mem_cons.mp h with rfl | hrest
    · refine ⟨_, ?_, rfl⟩
      have hpos : 0 < 36 - t := Nat.sub_pos_of_lt (threshold_lt k bias)
      have hmod := Nat.mod_lt (q - t) hpos
      omega
    · exact ih hrest

namespace Reader

/-- The reader when the distance it has read is complete: a character is placed. -/
def put (r : Reader) : Option Reader :=
  let points := r.label.length + 1
  let code := r.code + r.index / points
  let position := r.index % points
  if code ≤ 0x10FFFF ∧ ¬ (0xD800 ≤ code ∧ code ≤ 0xDFFF) then
    some
      { label := r.label.take position ++ Char.ofNat code :: r.label.drop position
        code := code
        index := position + 1
        bias := adapt (r.index - r.start) points (r.start == 0)
        start := position + 1
        weight := 1
        place := 36 }
  else none

theorem step_of_lt {r : Reader} {d : Nat} (h : d < threshold r.place r.bias) :
    r.step d = { r with index := r.index + d * r.weight }.put := by
  unfold step
  rw [if_pos h]
  rfl

theorem step_of_le {r : Reader} {d : Nat} (h : threshold r.place r.bias ≤ d) :
    r.step d = some { r with
      index := r.index + d * r.weight
      weight := r.weight * (36 - threshold r.place r.bias)
      place := r.place + 36 } := if_neg (Nat.not_lt.mpr h)

theorem run_digitChar {d : Nat} (h : d < 36) (r : Reader) (rest : List Char) :
    r.run (digitChar d :: rest) = (r.step d).bind fun next => next.run rest := by
  rw [run, digitValue?_digitChar d h]
  rfl

/-- A distance that was written is read, and then a character is placed. -/
theorem run_number (q : Nat) (r : Reader) (rest : List Char) :
    r.run (number r.bias r.place q ++ rest) =
      ({ r with index := r.index + q * r.weight }.put).bind fun next => next.run rest := by
  induction q using Nat.strongRecOn generalizing r with
  | ind q ih =>
    have hpos := threshold_pos r.place r.bias
    have hlt := threshold_lt r.place r.bias
    rw [number]
    split
    · rename_i hlast
      rw [List.singleton_append, run_digitChar (Nat.lt_trans hlast hlt), step_of_lt hlast]
    · rename_i hmore
      -- The first digit takes its part of `q`; the rest is read with the next weight.
      set t := threshold r.place r.bias with ht
      have hbound : (q - t) % (36 - t) < 36 - t := Nat.mod_lt _ (Nat.sub_pos_of_lt hlt)
      have hless : (q - t) / (36 - t) < q :=
        Nat.lt_of_le_of_lt (Nat.div_le_self ..) (by omega)
      have hparts : t + (q - t) % (36 - t) + (q - t) / (36 - t) * (36 - t) = q := by
        have hsum := Nat.mod_add_div' (q - t) (36 - t)
        omega
      rw [List.cons_append, run_digitChar (by omega), step_of_le (Nat.le_add_right ..),
        Option.bind_some]
      have hrest := ih _ hless { r with
        index := r.index + (t + (q - t) % (36 - t)) * r.weight
        weight := r.weight * (36 - t)
        place := r.place + 36 }
      rw [← ht, hrest]
      have hindex : r.index + (t + (q - t) % (36 - t)) * r.weight +
          (q - t) / (36 - t) * (r.weight * (36 - t)) = r.index + q * r.weight := by
        conv_rhs => rw [← hparts]
        ring
      simp only [put, hindex]

end Reader

/-! ## In step -/

/-- A character is no surrogate. -/
theorem toNat_valid (c : Char) :
    c.toNat ≤ 0x10FFFF ∧ ¬ (0xD800 ≤ c.toNat ∧ c.toNat ≤ 0xDFFF) := by
  have hvalid : c.toNat < 0xD800 ∨ 0xDFFF < c.toNat ∧ c.toNat < 0x110000 := c.valid
  omega

/-- The characters that have their places when the writer has been through `done` and has
`todo` before it, looking for `code`. -/
def placed (code : Nat) (done todo : List Char) : List Char :=
  done.filter (·.toNat ≤ code) ++ todo.filter (·.toNat < code)

/-- A writer that looks for `code` in the label `done ++ todo` and is between the two, and
a reader that has read all the writer has written behind the ASCII characters. -/
structure InStep (lead : List Char) (origin : Reader) (code : Nat) (done todo : List Char)
    (w : Writer) (r : Reader) : Prop where
  output : ∃ digits, w.output = lead ++ digits ∧ (∀ c ∈ digits, ∃ d < 36, c = digitChar d) ∧
    ∀ rest, origin.run (digits ++ rest) = r.run rest
  label : r.label = placed code done todo
  written : w.written = r.label.length
  bias : w.bias = r.bias
  code_le : r.code ≤ code
  /-- How far the reader is from the place where the writer is. -/
  distance : w.delta + r.index =
    (code - r.code) * (r.label.length + 1) + (done.filter (·.toNat ≤ code)).length
  rest : r.weight = 1 ∧ r.place = 36 ∧ r.start = r.index
  isFirst : (r.start == 0) = (w.written == origin.label.length)
  least : origin.label.length ≤ r.label.length

namespace InStep

variable {lead : List Char} {origin r : Reader} {code : Nat} {done todo : List Char} {w : Writer}

theorem placed_cons_of_ne {c : Char} (h : c.toNat ≠ code) :
    placed code (done ++ [c]) todo = placed code done (c :: todo) := by
  unfold placed
  rcases Nat.lt_or_gt_of_ne h with h | h
  · simp [h, Nat.le_of_lt h]
  · simp [Nat.not_le.mpr h, Nat.not_lt.mpr (Nat.le_of_lt h)]

theorem placed_cons_self (c : Char) :
    placed c.toNat (done ++ [c]) todo =
      done.filter (·.toNat ≤ c.toNat) ++ c :: todo.filter (·.toNat < c.toNat) := by
  simp [placed]

/-- The reader places the character that the writer has come upon. -/
theorem exists_put {c : Char} (h : InStep lead origin c.toNat done (c :: todo) w r) :
    ∃ next, ({ r with index := r.index + w.delta * r.weight } : Reader).put = some next ∧
      next.label = placed c.toNat (done ++ [c]) todo ∧ next.code = c.toNat ∧
      next.index = (done.filter (·.toNat ≤ c.toNat)).length + 1 ∧
      next.bias = adapt w.delta (w.written + 1) (w.written == origin.label.length) ∧
      next.start = next.index ∧ next.weight = 1 ∧ next.place = 36 := by
  have hlabel : r.label = done.filter (·.toNat ≤ c.toNat) ++ todo.filter (·.toNat < c.toNat) := by
    rw [h.label, placed]
    simp
  set before := done.filter (·.toNat ≤ c.toNat) with hbefore
  have hindex : r.index + w.delta * r.weight =
      (c.toNat - r.code) * (r.label.length + 1) + before.length := by
    rw [h.rest.1, Nat.mul_one, Nat.add_comm, h.distance]
  have hlt : before.length < r.label.length + 1 := by
    rw [hlabel, List.length_append]
    omega
  have hdiv : ((c.toNat - r.code) * (r.label.length + 1) + before.length) / (r.label.length + 1) =
      c.toNat - r.code := by
    rw [Nat.add_comm, Nat.add_mul_div_right _ _ (Nat.succ_pos _), Nat.div_eq_of_lt hlt,
      Nat.zero_add]
  have hmod : ((c.toNat - r.code) * (r.label.length + 1) + before.length) % (r.label.length + 1) =
      before.length := by
    rw [Nat.add_comm, Nat.add_mul_mod_self_right, Nat.mod_eq_of_lt hlt]
  have hdelta : (c.toNat - r.code) * (r.label.length + 1) + before.length - r.start = w.delta := by
    rw [← h.distance, h.rest.2.2, Nat.add_sub_cancel]
  have hcode : r.code + (c.toNat - r.code) = c.toNat := Nat.add_sub_of_le h.code_le
  unfold Reader.put
  simp only [hindex, hdiv, hmod, hcode, hdelta]
  rw [if_pos (toNat_valid c)]
  refine ⟨_, rfl, ?_, rfl, rfl, ?_, rfl, rfl, rfl⟩
  · rw [hlabel, List.take_left, List.drop_left, Char.ofNat_toNat, placed_cons_self]
  · rw [h.isFirst, h.written]

/-- The writer goes past one character. -/
theorem pass {c : Char} (h : InStep lead origin code done (c :: todo) w r) :
    ∃ next, InStep lead origin code (done ++ [c]) todo
      (w.pass origin.label.length code c) next := by
  unfold Writer.pass
  split
  · -- The character has its place already: one more place to go past.
    rename_i hless
    refine ⟨r, { h with label := ?_, distance := ?_ }⟩
    · rw [h.label, placed_cons_of_ne (Nat.ne_of_lt hless)]
    · have hdistance := h.distance
      simp [Nat.le_of_lt hless]
      omega
  split
  · -- The character is looked for: the distance is written, and the reader places it.
    rename_i heq
    subst heq
    obtain ⟨next, hput, hlabel, hcode, hindex, hbias, hstart, hweight, hplace⟩ := h.exists_put
    obtain ⟨digits, houtput, hdigits, hrun⟩ := h.output
    have hlength : next.label.length = r.label.length + 1 := by
      rw [hlabel, h.label, placed_cons_self, placed]
      simp
      omega
    refine ⟨next, {
      output := ⟨digits ++ number w.bias 36 w.delta, ?_, ?_, ?_⟩
      label := hlabel
      written := by rw [hlength, h.written]
      bias := hbias.symm
      code_le := Nat.le_of_eq hcode
      distance := ?_
      rest := ⟨hweight, hplace, hstart⟩
      isFirst := ?_
      least := hlength ▸ Nat.le_succ_of_le h.least }⟩
    · rw [houtput, List.append_assoc]
    · intro d hd
      exact (List.mem_append.mp hd).elim (hdigits d) exists_of_mem_number
    · intro rest
      rw [List.append_assoc, hrun, h.bias, ← h.rest.2.1, Reader.run_number, hput]
      rfl
    · simp [hcode, hindex]
    · have hmore : origin.label.length < w.written + 1 :=
        Nat.lt_succ_of_le (h.written ▸ h.least)
      rw [hstart, hindex, beq_false_of_ne (Nat.succ_ne_zero _),
        beq_false_of_ne (Nat.ne_of_gt hmore)]
  · -- The character has no place yet.
    rename_i hless hne
    have hmore : code < c.toNat := by omega
    refine ⟨r, { h with label := ?_, distance := ?_ }⟩
    · rw [h.label, placed_cons_of_ne (Nat.ne_of_gt hmore)]
    · rw [h.distance]
      simp [Nat.not_le.mpr hmore]

/-- The writer goes through the label. -/
theorem passAll (h : InStep lead origin code done todo w r) :
    ∃ next, InStep lead origin code (done ++ todo) []
      (todo.foldl (Writer.pass origin.label.length code) w) next := by
  induction todo generalizing done w r with
  | nil => exact ⟨r, by simpa using h⟩
  | cons c rest ih =>
    obtain ⟨next, hnext⟩ := h.pass
    obtain ⟨last, hlast⟩ := ih hnext
    exact ⟨last, by simpa using hlast⟩

/-- The writer goes back to the front, for the code point that follows. -/
theorem wrap (h : InStep lead origin code done [] w r) :
    InStep lead origin (code + 1) [] done { w with delta := w.delta + 1 } r where
  output := h.output
  label := by
    rw [h.label]
    simp only [placed, List.filter_nil, List.nil_append, List.append_nil, Nat.lt_succ_iff]
  written := h.written
  bias := h.bias
  code_le := Nat.le_succ_of_le h.code_le
  distance := by
    have hlength : (done.filter (·.toNat ≤ code)).length = r.label.length := by
      rw [h.label, placed]
      simp
    have hdistance := h.distance
    have hcode : code + 1 - r.code = code - r.code + 1 := Nat.succ_sub h.code_le
    rw [hlength] at hdistance
    rw [hcode, Nat.succ_mul]
    simp only [List.filter_nil, List.length_nil]
    omega
  rest := h.rest
  isFirst := h.isFirst
  least := h.least

/-- The writer passes over code points that the label does not have. -/
theorem skip {next : Nat} (h : InStep lead origin next [] todo w r) (hle : next ≤ code)
    (hnone : ∀ c ∈ todo, next ≤ c.toNat → code ≤ c.toNat) :
    InStep lead origin code [] todo
      { w with delta := w.delta + (code - next) * (w.written + 1) } r where
  output := h.output
  label := by
    rw [h.label]
    unfold placed
    refine congrArg _ (List.filter_congr fun c hc => ?_)
    have hmore := hnone c hc
    rw [decide_eq_decide]
    omega
  written := h.written
  bias := h.bias
  code_le := Nat.le_trans h.code_le hle
  distance := by
    have hdistance := h.distance
    have hcode : code - r.code = (next - r.code) + (code - next) := by
      have hless := h.code_le
      omega
    rw [hcode, Nat.add_mul, h.written]
    simp only [List.filter_nil, List.length_nil] at hdistance ⊢
    omega
  rest := h.rest
  isFirst := h.isFirst
  least := h.least

/-- When all code points have been looked for, the reader has the label. -/
theorem place {label : List Char} {codes : List Nat} {next : Nat}
    (h : InStep lead origin next [] label w r) (hsorted : codes.Pairwise (· < ·))
    (hnext : ∀ code ∈ codes, next ≤ code)
    (hcodes : ∀ c ∈ label, next ≤ c.toNat → c.toNat ∈ codes) :
    ∃ digits, (Writer.place origin.label.length label next codes w).output = lead ++ digits ∧
      (∀ c ∈ digits, ∃ d < 36, c = digitChar d) ∧ origin.run digits = some label := by
  induction codes generalizing next w r with
  | nil =>
    obtain ⟨digits, houtput, hdigits, hrun⟩ := h.output
    refine ⟨digits, houtput, hdigits, ?_⟩
    have hlabel : r.label = label := by
      rw [h.label, placed, List.filter_nil, List.nil_append, List.filter_eq_self]
      intro c hc
      exact decide_eq_true (Nat.lt_of_not_le fun hle => List.not_mem_nil (hcodes c hc hle))
    have hall := hrun []
    rw [List.append_nil] at hall
    rw [hall, Reader.run, if_pos h.rest.2.1, hlabel]
  | cons code codes ih =>
    rw [List.pairwise_cons] at hsorted
    have hskip := h.skip (hnext code List.mem_cons_self) fun c hc hle => by
      rcases List.mem_cons.mp (hcodes c hc hle) with heq | hlater
      · exact Nat.le_of_eq heq.symm
      · exact Nat.le_of_lt (hsorted.1 _ hlater)
    obtain ⟨last, hlast⟩ := hskip.passAll
    refine ih hlast.wrap hsorted.2 (fun other hother => hsorted.1 other hother) ?_
    intro c hc hle
    have hmem := hcodes c hc
      (Nat.le_trans (hnext code List.mem_cons_self) (Nat.le_of_succ_le hle))
    exact (List.mem_cons.mp hmem).resolve_left (Nat.ne_of_gt hle)

end InStep

/-! ## Code points -/

theorem mem_insertCode {code other : Nat} {codes : List Nat} :
    other ∈ insertCode code codes ↔ other = code ∨ other ∈ codes := by
  induction codes with
  | nil => simp [insertCode]
  | cons c cs ih =>
    unfold insertCode
    split
    · simp
    split
    · rename_i heq
      simp [heq]
    · simp only [List.mem_cons, ih]
      tauto

theorem pairwise_insertCode {code : Nat} {codes : List Nat} (h : codes.Pairwise (· < ·)) :
    (insertCode code codes).Pairwise (· < ·) := by
  induction codes with
  | nil => simp [insertCode]
  | cons c cs ih =>
    rw [List.pairwise_cons] at h
    unfold insertCode
    split
    · rename_i hless
      refine List.pairwise_cons.mpr ⟨fun other hother => ?_, List.pairwise_cons.mpr h⟩
      rcases List.mem_cons.mp hother with rfl | hlater
      · exact hless
      · exact Nat.lt_trans hless (h.1 other hlater)
    split
    · exact List.pairwise_cons.mpr h
    · rename_i hless hne
      refine List.pairwise_cons.mpr ⟨fun other hother => ?_, ih h.2⟩
      rcases mem_insertCode.mp hother with rfl | hlater
      · omega
      · exact h.1 other hlater

theorem mem_extendedCodes {label : List Char} {code : Nat} :
    code ∈ extendedCodes label ↔ ∃ c ∈ label, 0x80 ≤ c.toNat ∧ c.toNat = code := by
  unfold extendedCodes
  induction label with
  | nil => simp
  | cons c rest ih =>
    by_cases hc : 0x80 ≤ c.toNat
    · rw [List.filter_cons_of_pos (by simpa using hc), List.foldr_cons, mem_insertCode, ih]
      simp [hc, eq_comm]
    · rw [List.filter_cons_of_neg (by simpa using hc), ih]
      simp [hc]

theorem pairwise_extendedCodes (label : List Char) :
    (extendedCodes label).Pairwise (· < ·) := by
  unfold extendedCodes
  induction label.filter (fun c => 0x80 ≤ c.toNat) with
  | nil => exact .nil
  | cons c rest ih => exact pairwise_insertCode ih

/-! ## Whole labels -/

/-- ASCII characters with the hyphen that parts them from the digits, if there are any. -/
def lead (basic : List Char) : List Char := if basic.isEmpty then [] else basic ++ ['-']

/-- The reader that has the ASCII characters of a label. -/
def Reader.ofBasic (basic : List Char) : Reader := ⟨basic, 0x80, 0, 72, 0, 1, 36⟩

/-- What is written for a label: its ASCII characters, and digits that are read as the
label. -/
theorem exists_digits (label : List Char) :
    ∃ digits, encode label = lead (label.filter (·.toNat < 0x80)) ++ digits ∧
      (∀ c ∈ digits, ∃ d < 36, c = digitChar d) ∧
      (Reader.ofBasic (label.filter (·.toNat < 0x80))).run digits = some label := by
  set basic := label.filter (·.toNat < 0x80) with hbasic
  have hstart : InStep (lead basic) (.ofBasic basic) 0x80 [] label
      ⟨0, 72, basic.length, lead basic⟩ (.ofBasic basic) := {
    output := ⟨[], (List.append_nil _).symm, by simp, fun _ => rfl⟩
    label := hbasic
    written := rfl
    bias := rfl
    code_le := Nat.le_refl _
    distance := by simp [Reader.ofBasic]
    rest := ⟨rfl, rfl, rfl⟩
    isFirst := by simp [Reader.ofBasic]
    least := Nat.le_refl _ }
  refine hstart.place (pairwise_extendedCodes label) ?_ ?_
  · intro code hcode
    obtain ⟨c, -, hextended, rfl⟩ := mem_extendedCodes.mp hcode
    exact hextended
  · intro c hc hextended
    exact mem_extendedCodes.mpr ⟨c, hc, hextended, rfl⟩

theorem digitChar_ne_hyphen : ∀ d < 36, digitChar d ≠ '-' := by decide

/-- The digits are behind the last hyphen. -/
theorem splitLast_lead {basic digits : List Char} (h : ∀ c ∈ digits, c ≠ '-') :
    splitLast (lead basic ++ digits) = (basic, digits) := by
  have hdigits : (((lead basic ++ digits).reverse).takeWhile (· != '-')).reverse = digits := by
    rw [List.reverse_append, List.takeWhile_append_of_pos (by simpa using h)]
    cases basic <;> simp [lead]
  unfold splitLast
  rw [hdigits]
  cases basic with
  | nil => simp [lead]
  | cons c rest =>
    have hlength : (c :: rest ++ ['-'] ++ digits).length - digits.length - 1 =
        (c :: rest).length := by
      simp
      omega
    simp only [lead, List.isEmpty_cons, Bool.false_eq_true, if_false, hlength]
    rw [List.append_assoc, List.take_left]

/-- What is written for a label is read as that label. -/
theorem decode?_encode (label : List Char) : decode? (encode label) = some label := by
  obtain ⟨digits, hencode, hdigits, hrun⟩ := exists_digits label
  unfold decode?
  rw [hencode, splitLast_lead fun c hc => ?_]
  · rw [if_pos ?_]
    · exact hrun
    · simp
  · obtain ⟨d, hd, rfl⟩ := hdigits c hc
    exact digitChar_ne_hyphen d hd

/-- What is written for a label has of it the ASCII characters, and hyphens and digits. -/
theorem of_mem_encode {label : List Char} {c : Char} (h : c ∈ encode label) :
    (c ∈ label ∧ c.toNat < 0x80) ∨ c = '-' ∨ ∃ d < 36, c = digitChar d := by
  obtain ⟨digits, hencode, hdigits, -⟩ := exists_digits label
  rw [hencode] at h
  rcases List.mem_append.mp h with hlead | hdigit
  · unfold lead at hlead
    split at hlead
    · cases hlead
    · rcases List.mem_append.mp hlead with hbasic | hhyphen
      · obtain ⟨hmem, hascii⟩ := List.mem_filter.mp hbasic
        exact .inl ⟨hmem, by simpa using hascii⟩
      · exact .inr (.inl (List.mem_singleton.mp hhyphen))
  · exact .inr (.inr (hdigits c hdigit))

end LinkDigest.Url.Punycode
