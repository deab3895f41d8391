import LinkDigest.Url.Host.Ipv4
import LinkDigest.Url.Host.Ipv6
import LinkDigest.Proofs.Lists
import LinkDigest.Proofs.Text.Figures
import Mathlib.Data.List.Induction
import Mathlib.Tactic.Ring
import Mathlib.Tactic.Set

/-!
# Reading addresses that were written

What is written for an address is read as that address, whatever part of it has been left
out; and what is read fits into the bits of an address.
-/

namespace LinkDigest.Url

/-! ## Four bytes -/

namespace Ipv4

theorem isDigit_of_mem_decimal {n : Nat} {c : Char} (h : c ∈ decimal n) : c.isDigit :=
  Text.isDigit_of_mem_toString h

theorem decimal_ne_nil (n : Nat) : decimal n ≠ [] := Text.toString_ne_nil n

/-- A byte is written without leading zeros, so it is read in decimal. -/
theorem number?_decimal {n : Nat} (h : n < 256) : number? (decimal n) = some n := by
  have hbytes : ∀ n < 256, number? (Nat.toDigits 10 n) = some n := by decide +kernel
  unfold decimal
  rw [Text.toList_toString]
  exact hbytes n h

/-- The bytes of an address. -/
def bytes (address : Nat) : List Nat :=
  [address / 16777216 % 256, address / 65536 % 256, address / 256 % 256, address % 256]

theorem render_eq (address : Nat) :
    render address = ['.'].intercalate ((bytes address).map decimal) := by
  simp [render, bytes, List.intercalate, List.intersperse]

theorem fields_render (address : Nat) :
    Text.fields (· == '.') (render address) = (bytes address).map decimal := by
  rw [render_eq]
  refine Text.fields_intercalate (by decide) (by simp [bytes]) fun text htext c hc => ?_
  obtain ⟨n, -, rfl⟩ := List.mem_map.mp htext
  exact beq_eq_false_iff_ne.mpr (Text.ne_of_isDigit (isDigit_of_mem_decimal hc) (by decide))

theorem labels_render (address : Nat) : labels (render address) = (bytes address).map decimal := by
  unfold labels
  simp only [fields_render]
  exact if_neg (by simp [bytes, decimal_ne_nil])

theorem endsInNumber_render (address : Nat) : endsInNumber (render address) := by
  unfold endsInNumber
  rw [labels_render]
  have hlast : ((bytes address).map decimal).getLast? = some (decimal (address % 256)) := rfl
  have hdigits : (decimal (address % 256)).all Char.isDigit :=
    List.all_eq_true.mpr fun c hc => isDigit_of_mem_decimal hc
  rw [hlast]
  cases hdecimal : decimal (address % 256) with
  | nil => exact absurd hdecimal (decimal_ne_nil _)
  | cons c rest =>
    rw [hdecimal] at hdigits
    simp [hdigits]

/-- An address is written in figures and dots. -/
theorem of_mem_render {address : Nat} {c : Char} (h : c ∈ render address) :
    c = '.' ∨ c.isDigit := by
  rw [render_eq] at h
  refine (Text.of_mem_intercalate h).imp_right ?_
  rintro ⟨text, htext, hc⟩
  obtain ⟨n, -, rfl⟩ := List.mem_map.mp htext
  exact isDigit_of_mem_decimal hc

theorem parse?_eq_some_iff {host : List Char} {address : Nat} :
    parse? host = some address ↔
      (labels host).length ≤ 4 ∧ ∃ numbers last, (labels host).mapM number? = some numbers ∧
        numbers.getLast? = some last ∧ last < 256 ^ (4 - numbers.dropLast.length) ∧
        (∀ n ∈ numbers.dropLast, n < 256) ∧ last + leadingBytes 3 numbers.dropLast = address := by
  unfold parse?
  by_cases hlength : (labels host).length ≤ 4
  · simp [Nat.not_lt.mpr hlength, hlength, Option.bind_eq_some_iff, and_assoc]
  · simp [Nat.lt_of_not_le hlength, hlength]

/-- What is written for an address is read as that address. -/
theorem parse?_render {address : Nat} (h : address < 2 ^ 32) :
    parse? (render address) = some address := by
  have hnumbers : ((bytes address).map decimal).mapM number? = some (bytes address) := by
    simp [bytes, number?_decimal, Nat.mod_lt]
  rw [parse?_eq_some_iff, labels_render]
  refine ⟨by simp [bytes], _, _, hnumbers, rfl, ?_, ?_, ?_⟩
  · simp [bytes, Nat.mod_lt]
  · simp [bytes, Nat.mod_lt]
  · simp [bytes, leadingBytes]
    omega

theorem leadingBytes_lt {place : Nat} {numbers : List Nat} (hlength : numbers.length ≤ place + 1)
    (hbytes : ∀ n ∈ numbers, n < 256) :
    leadingBytes place numbers + 256 ^ (place + 1 - numbers.length) ≤ 256 ^ (place + 1) := by
  induction numbers generalizing place with
  | nil => simp [leadingBytes]
  | cons n ns ih =>
    have hn := hbytes n List.mem_cons_self
    have hns := fun m hm => hbytes m (List.mem_cons_of_mem _ hm)
    rw [List.length_cons] at hlength
    cases place with
    | zero =>
      have hnil : ns = [] := List.eq_nil_of_length_eq_zero (by omega)
      subst hnil
      simp [leadingBytes]
      omega
    | succ place =>
      have hrest := ih (by omega : ns.length ≤ place + 1) hns
      have hplace : place + 1 + 1 - (ns.length + 1) = place + 1 - ns.length := by omega
      simp only [leadingBytes, List.length_cons, hplace, Nat.add_sub_cancel, Nat.pow_eq]
      calc n * 256 ^ (place + 1) + leadingBytes place ns + 256 ^ (place + 1 - ns.length)
          ≤ n * 256 ^ (place + 1) + 256 ^ (place + 1) := by omega
        _ = (n + 1) * 256 ^ (place + 1) := by ring
        _ ≤ 256 * 256 ^ (place + 1) := Nat.mul_le_mul_right _ hn
        _ = 256 ^ (place + 1 + 1) := by ring

/-- What is read fits into 32 bits. -/
theorem parse?_lt {host : List Char} {address : Nat} (h : parse? host = some address) :
    address < 2 ^ 32 := by
  obtain ⟨hlength, numbers, last, hnumbers, -, hlast, hbytes, rfl⟩ := parse?_eq_some_iff.mp h
  have hfirsts : numbers.dropLast.length ≤ 3 := by
    have hsame := (mapM_eq_some_iff.mp hnumbers).length_eq
    rw [List.length_dropLast]
    omega
  have hsum := leadingBytes_lt (by omega : numbers.dropLast.length ≤ 3 + 1) hbytes
  have hplace : 3 + 1 - numbers.dropLast.length = 4 - numbers.dropLast.length := rfl
  rw [hplace] at hsum
  calc last + leadingBytes 3 numbers.dropLast
      < 256 ^ (4 - numbers.dropLast.length) + leadingBytes 3 numbers.dropLast :=
        Nat.add_lt_add_right hlast _
    _ ≤ 256 ^ (3 + 1) := by omega
    _ = 2 ^ 32 := by norm_num

end Ipv4

/-! ## Hexadecimal numbers -/

theorem number?_append_singleton (digits : List Char) (c : Char) :
    Hex.number? (digits ++ [c]) =
      (Hex.number? digits).bind fun n => (Hex.value? c).map fun v => n * 16 + v := by
  unfold Hex.number?
  rw [List.foldl_append, List.foldl_cons, List.foldl_nil]
  cases Hex.value? c <;> rfl

theorem number?_digits (n : Nat) : Hex.number? (Hex.digits n) = some n := by
  fun_induction Hex.digits n with
  | case1 n h => simp [Hex.number?, Hex.value?_digit n h]
  | case2 n h ih =>
    rw [number?_append_singleton, ih, Hex.value?_digit _ (Nat.mod_lt n (by decide))]
    simp only [Option.bind_some, Option.map_some]
    rw [Nat.div_add_mod']

theorem value?_lt {c : Char} {v : Nat} (h : Hex.value? c = some v) : v < 16 := by
  unfold Hex.value? at h
  split at h
  · rename_i hfigure
    have hle : c.toNat ≤ 57 := hfigure.2
    cases h
    omega
  split at h
  · rename_i hsmall
    have hle : c.toNat ≤ 102 := hsmall.2
    cases h
    omega
  split at h
  · rename_i hcapital
    have hle : c.toNat ≤ 70 := hcapital.2
    cases h
    omega
  · cases h

theorem number?_lt {digits : List Char} {n : Nat} (h : Hex.number? digits = some n) :
    n < 16 ^ digits.length := by
  induction digits using List.reverseRecOn generalizing n with
  | nil => simp [Hex.number?] at h; simp [← h]
  | append_singleton digits c ih =>
    rw [number?_append_singleton] at h
    obtain ⟨m, hm, h⟩ := Option.bind_eq_some_iff.mp h
    obtain ⟨v, hv, rfl⟩ := Option.map_eq_some_iff.mp h
    have hlt := ih hm
    have hv := value?_lt hv
    rw [List.length_append, List.length_singleton, Nat.pow_succ]
    omega

/-- Hexadecimal digits in lower case. -/
theorem exists_of_mem_digits {n : Nat} {c : Char} (h : c ∈ Hex.digits n) :
    ∃ v < 16, c = Hex.digit v := by
  fun_induction Hex.digits n with
  | case1 n hn => exact ⟨n, hn, List.mem_singleton.mp h⟩
  | case2 n hn ih =>
    rcases List.mem_append.mp h with hmore | hlast
    · exact ih hmore
    · exact ⟨_, Nat.mod_lt n (by decide), List.mem_singleton.mp hlast⟩

theorem digits_ne_nil (n : Nat) : Hex.digits n ≠ [] := by
  unfold Hex.digits
  split <;> simp

theorem length_digits_le {n k : Nat} (h : n < 16 ^ (k + 1)) : (Hex.digits n).length ≤ k + 1 := by
  induction k generalizing n with
  | zero =>
    unfold Hex.digits
    simp [show n < 16 by simpa using h]
  | succ k ih =>
    unfold Hex.digits
    split
    · simp
    · rw [List.length_append, List.length_singleton]
      refine Nat.succ_le_succ (ih ?_)
      exact Nat.div_lt_of_lt_mul (by rw [Nat.mul_comm, ← Nat.pow_succ]; exact h)

/-! ## Eight pieces -/

namespace Ipv6

/-- The pieces of an address. -/
structure IsAddress (pieces : List Nat) : Prop where
  length : pieces.length = 8
  lt : ∀ piece ∈ pieces, piece < 65536

theorem ne_colon_of_mem_digits {n : Nat} {c : Char} (h : c ∈ Hex.digits n) : c ≠ ':' := by
  have hdigits : ∀ v < 16, Hex.digit v ≠ ':' := by decide
  obtain ⟨v, hv, rfl⟩ := exists_of_mem_digits h
  exact hdigits v hv

theorem piece?_digits {n : Nat} (h : n < 65536) : piece? (Hex.digits n) = some n := by
  have hlength : (Hex.digits n).length ≤ 4 := length_digits_le h
  unfold piece?
  rw [if_neg (by simp [digits_ne_nil]; omega), number?_digits]

theorem pieces?_digits {pieces : List Nat} (allowDotted : Bool)
    (h : ∀ piece ∈ pieces, piece < 65536) :
    pieces? allowDotted (pieces.map Hex.digits) = some pieces := by
  induction pieces with
  | nil => rfl
  | cons piece rest ih =>
    have hpiece := piece?_digits (h piece List.mem_cons_self)
    have hrest := ih fun other hother => h other (List.mem_cons_of_mem _ hother)
    cases rest with
    | nil => simp [pieces?, hpiece]
    | cons next more =>
      simp only [List.map_cons] at hrest ⊢
      simp [pieces?, hpiece, hrest]

theorem joined_cons_cons (piece next : Nat) (rest : List Nat) :
    joined (piece :: next :: rest) = Hex.digits piece ++ ':' :: joined (next :: rest) := by
  simp [joined, List.intercalate]

/-- Pieces begin with no colon. -/
theorem exists_joined_cons (piece : Nat) (rest : List Nat) :
    ∃ c text, joined (piece :: rest) = c :: text ∧ c ≠ ':' := by
  cases hdigits : Hex.digits piece with
  | nil => exact absurd hdigits (digits_ne_nil piece)
  | cons c text =>
    have hc : c ≠ ':' := ne_colon_of_mem_digits (n := piece) (by rw [hdigits]; simp)
    cases rest with
    | nil => exact ⟨c, text, by simp [joined, List.intercalate, hdigits], hc⟩
    | cons next more =>
      exact ⟨c, _, by rw [joined_cons_cons, hdigits]; rfl, hc⟩

theorem side?_joined {pieces : List Nat} (allowDotted : Bool)
    (h : ∀ piece ∈ pieces, piece < 65536) : side? allowDotted (joined pieces) = some pieces := by
  cases pieces with
  | nil => rfl
  | cons piece rest =>
    have hfields : Text.fields (· == ':') (joined (piece :: rest)) =
        (piece :: rest).map Hex.digits := by
      refine Text.fields_intercalate (by decide) (by simp) fun text htext c hc => ?_
      obtain ⟨n, -, rfl⟩ := List.mem_map.mp htext
      exact beq_eq_false_iff_ne.mpr (ne_colon_of_mem_digits hc)
    obtain ⟨c, text, hjoined, -⟩ := exists_joined_cons piece rest
    unfold side?
    rw [hfields, pieces?_digits allowDotted h, hjoined]
    rfl

/-! ### The gap -/

theorem splitGap_cons {c : Char} {rest : List Char} (h : c ≠ ':' ∨ rest.head? ≠ some ':') :
    splitGap (c :: rest) = (splitGap rest).map fun parts => (c :: parts.1, parts.2) := by
  rw [splitGap]
  rintro rest' hc rfl
  rcases h with h | h
  · exact h hc
  · exact h rfl

theorem splitGap_append {text tail : List Char} (h : ∀ c ∈ text, c ≠ ':') :
    splitGap (text ++ tail) = (splitGap tail).map fun parts => (text ++ parts.1, parts.2) := by
  induction text with
  | nil => simp
  | cons c rest ih =>
    have hrest := ih fun d hd => h d (List.mem_cons_of_mem _ hd)
    rw [List.cons_append, splitGap_cons (.inl (h c List.mem_cons_self)), hrest, Option.map_map]
    rfl

/-- There is no gap in pieces that are joined. -/
theorem splitGap_joined {pieces : List Nat} (hne : pieces ≠ []) (tail : List Char) :
    splitGap (joined pieces ++ tail) =
      (splitGap tail).map fun parts => (joined pieces ++ parts.1, parts.2) := by
  induction pieces with
  | nil => exact absurd rfl hne
  | cons piece rest ih =>
    have hpiece : ∀ c ∈ Hex.digits piece, c ≠ ':' := fun c hc => ne_colon_of_mem_digits hc
    cases rest with
    | nil =>
      have hjoined : joined [piece] = Hex.digits piece := by simp [joined, List.intercalate]
      rw [hjoined, splitGap_append hpiece]
    | cons next more =>
      obtain ⟨c, text, hjoined, hc⟩ := exists_joined_cons next more
      have hhead : (joined (next :: more) ++ tail).head? ≠ some ':' := by
        rw [hjoined]
        simpa using hc
      rw [joined_cons_cons, List.append_assoc, List.cons_append, splitGap_append hpiece,
        splitGap_cons (.inr hhead), ih (List.cons_ne_nil _ _), Option.map_map, Option.map_map]
      congr 1
      funext parts
      simp

theorem splitGap_joined_gap (pieces : List Nat) (rest : List Char) :
    splitGap (joined pieces ++ ':' :: ':' :: rest) = some (joined pieces, rest) := by
  cases pieces with
  | nil => simp [joined, List.intercalate, splitGap]
  | cons piece more =>
    rw [splitGap_joined (List.cons_ne_nil _ _)]
    simp [splitGap]

theorem zeroRun_spec (pieces : List Nat) :
    pieces = List.replicate (zeroRun pieces) 0 ++ pieces.drop (zeroRun pieces) := by
  unfold zeroRun
  induction pieces with
  | nil => rfl
  | cons piece rest ih =>
    by_cases hzero : piece = 0
    · subst hzero
      simpa [List.replicate_succ] using ih
    · simp [hzero]

/-- What is left out is a run of zero pieces. -/
theorem longestZeroRun_spec (index : Nat) (pieces : List Nat) :
    (longestZeroRun index pieces).2 = 0 ∨
      index ≤ (longestZeroRun index pieces).1 ∧
        pieces = pieces.take ((longestZeroRun index pieces).1 - index) ++
          (List.replicate (longestZeroRun index pieces).2 0 ++
            pieces.drop ((longestZeroRun index pieces).1 - index +
              (longestZeroRun index pieces).2)) := by
  induction pieces generalizing index with
  | nil => exact .inl rfl
  | cons piece rest ih =>
    unfold longestZeroRun
    dsimp only
    split
    · right
      simpa using zeroRun_spec (piece :: rest)
    · refine (ih (index + 1)).imp_right ?_
      generalize longestZeroRun (index + 1) rest = run
      rintro ⟨hle, hrest⟩
      have hindex : run.1 - index = run.1 - (index + 1) + 1 := by omega
      refine ⟨Nat.le_of_succ_le hle, ?_⟩
      have hplace : run.1 - (index + 1) + 1 + run.2 = run.1 - (index + 1) + run.2 + 1 := by omega
      rw [hindex, hplace, List.take_succ_cons, List.drop_succ_cons, List.cons_append, ← hrest]

/-- What is written for an address is read as that address. -/
theorem parse?_render {pieces : List Nat} (h : IsAddress pieces) :
    parse? (render pieces) = some pieces := by
  unfold render
  dsimp only
  split
  · -- The pieces on both sides of the gap are read, and zeros fill it.
    rename_i hgap
    have hrun := (longestZeroRun_spec 0 pieces).resolve_left (by omega)
    set run := longestZeroRun 0 pieces
    simp only [Nat.sub_zero] at hrun
    obtain ⟨-, hpieces⟩ := hrun
    have hlength := congrArg List.length hpieces
    simp only [List.length_append, List.length_replicate, List.length_take, List.length_drop,
      h.length] at hlength
    have hleft := side?_joined false fun piece hpiece =>
      h.lt piece (List.mem_of_mem_take (i := run.1) hpiece)
    have hright := side?_joined true fun piece hpiece =>
      h.lt piece (List.mem_of_mem_drop (i := run.1 + run.2) hpiece)
    have hgiven : 8 - ((pieces.take run.1).length + (pieces.drop (run.1 + run.2)).length) =
        run.2 := by
      simp only [List.length_take, List.length_drop, h.length]
      omega
    unfold parse?
    rw [List.append_assoc, List.cons_append, List.singleton_append, splitGap_joined_gap]
    simp only [hleft, hright, Option.bind_eq_bind, Option.bind_some, hgiven]
    rw [if_pos (by omega), List.append_assoc, ← hpieces]
  · -- Nothing was left out, so there is no gap to be found.
    have hne : pieces ≠ [] := fun hnil => by simpa [hnil] using h.length
    have hnone : splitGap (joined pieces) = none := by
      have hjoined := splitGap_joined hne []
      rwa [List.append_nil] at hjoined
    unfold parse?
    rw [hnone]
    simp [side?_joined true h.lt, h.length]

/-! ### What is read -/

theorem piece?_lt {field : List Char} {piece : Nat} (h : piece? field = some piece) :
    piece < 65536 := by
  unfold piece? at h
  split at h
  · cases h
  · rename_i hshort
    have hlength : field.length ≤ 4 := by omega
    exact Nat.lt_of_lt_of_le (number?_lt h) (Nat.pow_le_pow_right (by decide) hlength)

theorem byte?_le {field : List Char} {byte : Nat} (h : byte? field = some byte) : byte ≤ 255 := by
  unfold byte? at h
  split at h
  · split at h
    · cases h
    · cases h
    · simp only at h
      split at h
      · rename_i hbyte
        cases h
        exact hbyte.2
      · cases h
  · cases h

theorem dotted?_lt {field : List Char} {pieces : List Nat} (h : dotted? field = some pieces) :
    ∀ piece ∈ pieces, piece < 65536 := by
  unfold dotted? at h
  split at h
  · rename_i a b c d hbytes
    have hall : ∀ byte ∈ [a, b, c, d], byte ≤ 255 := by
      intro byte hbyte
      have hmem : some byte ∈ (Text.fields (· == '.') field).map byte? := by
        rw [hbytes]
        simpa using hbyte
      obtain ⟨part, -, hpart⟩ := List.mem_map.mp hmem
      exact byte?_le hpart
    simp only [List.forall_mem_cons] at hall
    cases h
    intro piece hpiece
    simp only [List.mem_cons, List.not_mem_nil, or_false] at hpiece
    omega
  · cases h

theorem pieces?_lt {allowDotted : Bool} {texts : List (List Char)} {pieces : List Nat}
    (h : pieces? allowDotted texts = some pieces) : ∀ piece ∈ pieces, piece < 65536 := by
  fun_induction pieces? allowDotted texts generalizing pieces with
  | case1 => cases h; simp
  | case2 field piece hpiece =>
    cases h
    simpa using piece?_lt hpiece
  | case3 field hnone hdotted => exact dotted?_lt h
  | case4 field hnone hdotted => cases h
  | case5 field rest hrest ih =>
    simp only [Option.bind_eq_bind, Option.bind_eq_some_iff, Option.pure_def,
      Option.some.injEq] at h
    obtain ⟨piece, hpiece, more, hmore, rfl⟩ := h
    exact List.forall_mem_cons.mpr ⟨piece?_lt hpiece, ih hmore⟩

theorem side?_lt {allowDotted : Bool} {text : List Char} {pieces : List Nat}
    (h : side? allowDotted text = some pieces) : ∀ piece ∈ pieces, piece < 65536 := by
  unfold side? at h
  split at h
  · cases h
    simp
  · exact pieces?_lt h

/-- What is read fits into the eight pieces of an address. -/
theorem isAddress_of_parse? {text : List Char} {pieces : List Nat} (h : parse? text = some pieces) :
    IsAddress pieces := by
  unfold parse? at h
  split at h
  · simp only [Option.bind_eq_bind, Option.bind_eq_some_iff] at h
    obtain ⟨all, hall, h⟩ := h
    split at h
    · rename_i hlength
      cases h
      exact ⟨hlength, side?_lt hall⟩
    · cases h
  · simp only [Option.bind_eq_bind, Option.bind_eq_some_iff] at h
    obtain ⟨left, hleft, right, hright, h⟩ := h
    split at h
    · rename_i hgiven
      cases h
      refine ⟨?_, ?_⟩
      · simp only [List.length_append, List.length_replicate]
        omega
      · intro piece hpiece
        rcases List.mem_append.mp hpiece with hpiece | hpiece
        · rcases List.mem_append.mp hpiece with hpiece | hzero
          · exact side?_lt hleft piece hpiece
          · rw [List.eq_of_mem_replicate hzero]
            decide
        · exact side?_lt hright piece hpiece
    · cases h

/-- Addresses are written in hexadecimal digits and colons. -/
theorem of_mem_render {pieces : List Nat} {c : Char} (h : c ∈ render pieces) :
    c = ':' ∨ ∃ v < 16, c = Hex.digit v := by
  have hjoined : ∀ pieces, ∀ c ∈ joined pieces, c = ':' ∨ ∃ v < 16, c = Hex.digit v := by
    intro pieces c hc
    refine (Text.of_mem_intercalate hc).imp_right ?_
    rintro ⟨text, htext, hc⟩
    obtain ⟨n, -, rfl⟩ := List.mem_map.mp htext
    exact exists_of_mem_digits hc
  unfold render at h
  dsimp only at h
  split at h
  · rcases List.mem_append.mp h with h | h
    · rcases List.mem_append.mp h with h | h
      · exact hjoined _ c h
      · exact .inl (by simpa using h)
    · exact hjoined _ c h
  · exact hjoined _ c h

end Ipv6

end LinkDigest.Url
