import LinkDigest.Pattern.Template
import LinkDigest.Text.Blank
import LinkDigest.Text.CharRef

/-!
# Rules for titles

What the caller knows better: titles that follow from the address alone, how
far to look for a title on some pages, and how to change the titles found.
-/

namespace LinkDigest

open LinkDigest.Text

/-- A way to get a title from an address, without looking at the page. -/
abbrev CustomResolver := List Char → Option (List Char)

/-- A change to titles: every match is replaced by a template. -/
structure TitleEdit where
  matcher : Matcher
  replacement : List Char

/-- The title with the change made. -/
def TitleEdit.apply (edit : TitleEdit) (title : List Char) : List Char :=
  edit.matcher.replaceAll title edit.replacement

/-- Rules for titles, each kind in the order it was given. -/
structure Rules where
  resolvers : List CustomResolver
  scanLimits : List (Matcher × Nat)
  edits : List TitleEdit

namespace Rules

/-- No rules. -/
def empty : Rules := ⟨[], [], []⟩

/-- With one way more to get titles. -/
def addResolver (rules : Rules) (resolver : CustomResolver) : Rules :=
  { rules with resolvers := rules.resolvers ++ [resolver] }

/-- The title that a template gives for addresses that match. -/
def templateResolver (m : Matcher) (template : List Char) : CustomResolver := fun url =>
  (m.find? (.start url)).map fun found => Template.expand m found url template

/-- With a template for addresses that match a pattern; none if the pattern
cannot be used. -/
def addTemplate? (rules : Rules) (pattern template : List Char) : Option Rules :=
  (Matcher.ofText? pattern).map fun m => rules.addResolver (templateResolver m template)

/-- With a limit for addresses that match a pattern. -/
def addScanLimit? (rules : Rules) (pattern : List Char) (limit : Nat) : Option Rules :=
  (Matcher.ofText? pattern).map fun m =>
    { rules with scanLimits := rules.scanLimits ++ [(m, limit)] }

/-- With one change more to titles. -/
def addEdit? (rules : Rules) (pattern replacement : List Char) : Option Rules :=
  (Matcher.ofText? pattern).map fun m =>
    { rules with edits := rules.edits ++ [⟨m, replacement⟩] }

/-- Without titles from addresses. -/
def clearResolvers (rules : Rules) : Rules := { rules with resolvers := [] }

/-- Without limits. -/
def clearScanLimits (rules : Rules) : Rules := { rules with scanLimits := [] }

/-- Without changes. -/
def clearEdits (rules : Rules) : Rules := { rules with edits := [] }

/-- Whether there is nothing in a text but blanks. -/
def isBlankText (text : List Char) : Bool := (trim text).isEmpty

/-- The first title from the address that is not blank. -/
def customTitle? (rules : Rules) (url : List Char) : Option (List Char) :=
  (rules.resolvers.filterMap fun resolver => resolver url).find? fun title => !isBlankText title

/-- The limit of the first pattern that matches, or else the usual one. -/
def scanLimitFor (rules : Rules) (url : List Char) (usual : Nat) : Nat :=
  match rules.scanLimits.find? fun entry => entry.1.isMatch url with
  | some (_, limit) => limit
  | none => usual

/-- A title as it is shown: references decoded, changes made in turn, and no
blanks around it. -/
def postProcess (rules : Rules) (raw : List Char) : List Char :=
  trim (rules.edits.foldl (fun title edit => edit.apply title) (CharRef.decode raw))

end Rules

end LinkDigest
