import LinkDigest.Proofs.Page.Reading
import LinkDigest.Title.Desk
import Mathlib.Data.List.TakeWhile

/-!
# The title of a link

What a link is called, said without any search: the first answer of the rules that
is not blank, or else the title that stands on its page, or else the link itself.
It depends on the rules and on what the link answers, and on nothing else.
-/

namespace LinkDigest

open LinkDigest.Text

/-! ## Blank texts -/

theorem Text.trim_eq_nil_iff {text : List Char} : trim text = [] ↔ ∀ c ∈ text, isBlank c := by
  have hends : trim text = [] ↔ ∀ c ∈ text.dropWhile isBlank, isBlank c := by
    rw [trim, strip, dropTrailing, List.reverse_eq_nil_iff, List.dropWhile_eq_nil_iff]
    simp only [List.mem_reverse]
  rw [hends]
  constructor
  · intro hrest c hc
    rw [← List.takeWhile_append_dropWhile (p := isBlank) (l := text)] at hc
    exact (List.mem_append.mp hc).elim List.mem_takeWhile_imp (hrest c)
  · intro hall c hc
    exact hall c ((List.dropWhile_sublist isBlank).subset hc)

namespace Rules

theorem isBlankText_eq_false_of_mem {text : List Char} {c : Char} (hc : c ∈ text)
    (h : isBlank c = false) : isBlankText text = false := by
  have hne : trim text ≠ [] := fun hnil => by
    rw [trim_eq_nil_iff.mp hnil c hc] at h
    cases h
  simpa [isBlankText] using hne

/-- What is left between blanks is not blank. -/
theorem isBlankText_trim {text : List Char} (h : trim text ≠ []) :
    isBlankText (trim text) = false := by
  have hlast : (trim text).getLast? = some ((trim text).getLast h) :=
    List.getLast?_eq_some_getLast h
  exact isBlankText_eq_false_of_mem (List.getLast_mem h) (getLast_dropTrailing hlast)

/-- The first answer of the rules that is not blank. -/
def answer? (rules : Rules) (url : List Char) : Option (List Char) :=
  rules.resolvers.findSome? fun resolver =>
    (resolver url).filter fun title => !isBlankText title

theorem customTitle?_eq_answer? (rules : Rules) (url : List Char) :
    rules.customTitle? url = rules.answer? url := by
  unfold customTitle? answer?
  induction rules.resolvers with
  | nil => rfl
  | cons resolver rest ih =>
    rw [List.filterMap_cons, List.findSome?_cons]
    cases resolver url with
    | none => exact ih
    | some title =>
      rw [List.find?_cons]
      cases hblank : isBlankText title with
      | true => simpa [Option.filter, hblank] using ih
      | false => simp [Option.filter, hblank]

theorem isBlankText_of_answer? {rules : Rules} {url title : List Char}
    (h : rules.answer? url = some title) : isBlankText title = false := by
  obtain ⟨resolver, -, hanswer⟩ := List.exists_of_findSome?_eq_some h
  simpa using (Option.filter_eq_some_iff.mp hanswer).2

end Rules

/-! ## The reference -/

/-- What is left of a title when it has been changed as the rules say, unless that is
nothing. -/
def Rules.polished? (rules : Rules) (raw : Option (List Char)) : Option (List Char) :=
  (raw.map rules.postProcess).filter fun title => !title.isEmpty

/-- The title that stands on the page of a link. There is none if the page cannot be
read or has no markup. -/
def Network.rawTitle? (network : Network) (indexes : Text.Indexes) (limit : Nat) (url : String) :
    Option (List Char) :=
  match (network url).answer with
  | .error _ => none
  | .ok page => if page.isHtml then page.rawTitle? limit indexes else none

/-- What a link is called that has this title, or none. -/
def nameFor (url : String) : Option (List Char) → String
  | some title => String.ofList title
  | none => fallbackTitle url

/-- What a link is called. -/
def titleOf (rules : Rules) (network : Network) (indexes : Text.Indexes) (usual : Nat)
    (url : String) : String :=
  nameFor url <| rules.answer? url.toList <|>
    rules.polished? (network.rawTitle? indexes (rules.scanLimitFor url.toList usual) url)

theorem isBlankText_of_polished? {rules : Rules} {raw : Option (List Char)} {title : List Char}
    (h : rules.polished? raw = some title) : Rules.isBlankText title = false := by
  obtain ⟨hpolished, hsome⟩ := Option.filter_eq_some_iff.mp h
  obtain ⟨text, -, rfl⟩ := Option.map_eq_some_iff.mp hpolished
  exact Rules.isBlankText_trim (by simpa [Rules.postProcess] using hsome)

theorem isBlankText_fallbackTitle (url : String) :
    Rules.isBlankText (fallbackTitle url).toList = false := by
  have hmem : '[' ∈ (fallbackTitle url).toList := by simp [fallbackTitle]
  exact Rules.isBlankText_eq_false_of_mem hmem rfl

/-- No link is called by a blank. -/
theorem isBlankText_titleOf (rules : Rules) (network : Network) (indexes : Text.Indexes)
    (usual : Nat) (url : String) :
    Rules.isBlankText (titleOf rules network indexes usual url).toList = false := by
  unfold titleOf
  cases hanswer : rules.answer? url.toList with
  | some title => simpa [nameFor] using Rules.isBlankText_of_answer? hanswer
  | none =>
    cases hpage : rules.polished?
        (network.rawTitle? indexes (rules.scanLimitFor url.toList usual) url) with
    | some title => simpa [nameFor] using isBlankText_of_polished? hpage
    | none => exact isBlankText_fallbackTitle url

theorem titleOf_of_answer? {rules : Rules} {url : String} {title : List Char}
    (h : rules.answer? url.toList = some title) (network : Network) (indexes : Text.Indexes)
    (usual : Nat) :
    titleOf rules network indexes usual url = String.ofList title := by
  rw [titleOf, h]
  rfl

theorem titleOf_of_answer?_eq_none {rules : Rules} {url : String}
    (h : rules.answer? url.toList = none) (network : Network) (indexes : Text.Indexes)
    (usual : Nat) :
    titleOf rules network indexes usual url = nameFor url
      (rules.polished? (network.rawTitle? indexes (rules.scanLimitFor url.toList usual) url)) := by
  rw [titleOf, h]
  rfl

end LinkDigest
